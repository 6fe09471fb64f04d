import Vigil.Double.Grid

/-!
# Binary64 numbers

The numbers that rules, samples and durations are made of. A finite number is a
sign and a magnitude on the grid of `Vigil.Double.Grid`, so equal numbers with
equal signs are equal values of the type. Each operation computes exactly and
rounds once, to nearest with ties to even. Comparison, integer views and the
nanosecond view are exact.
-/

namespace Vigil

/-- A finite binary64 magnitude: a count of quanta that fits below the bound. -/
structure Magnitude where
  count : Nat
  fits : Grid.Fits count
  below : count < Grid.bound
deriving DecidableEq

/-- The magnitude of zero. -/
def Magnitude.zero : Magnitude := ⟨0, Grid.fits_zero, Grid.bound_pos⟩

/-- A binary64 number; its not-a-number values are not told apart. -/
inductive Double where
  | nan
  | infinite (negative : Bool)
  | finite (negative : Bool) (magnitude : Magnitude)
deriving DecidableEq

namespace Double

/-- The number nearest to a ratio of counts of quanta; too large a ratio is infinite. -/
def ofRatio (negative : Bool) (num den : Nat) : Double :=
  if below : Grid.nearest num den < Grid.bound then
    .finite negative ⟨Grid.nearest num den, Grid.fits_nearest num den, below⟩
  else .infinite negative

/-- Positive zero. -/
def zero : Double := .finite false .zero

/-- Negative zero. -/
def negZero : Double := .finite true .zero

/-- The number nearest to a natural number. -/
def ofNat (n : Nat) : Double := ofRatio false (n * Grid.one) 1

/-- The number nearest to an integer. -/
def ofInt (n : Int) : Double := ofRatio (n < 0) (n.natAbs * Grid.one) 1

instance (n : Nat) : OfNat Double n := ⟨ofNat n⟩

instance : Inhabited Double := ⟨zero⟩

/-- A magnitude with its sign, in quanta. -/
def signed (negative : Bool) (magnitude : Magnitude) : Int :=
  if negative then -(magnitude.count : Int) else magnitude.count

/-- The sum of a sign and an exact integer of quanta; an exact zero keeps the given sign. -/
def ofQuanta (zeroSign : Bool) (quanta : Int) : Double :=
  if quanta = 0 then .finite zeroSign .zero else ofRatio (quanta < 0) quanta.natAbs 1

/-- The number with the other sign. -/
def neg : Double → Double
  | .nan => .nan
  | .infinite s => .infinite !s
  | .finite s m => .finite (!s) m

/-- The number without its sign. -/
def abs : Double → Double
  | .nan => .nan
  | .infinite _ => .infinite false
  | .finite _ m => .finite false m

/-- Rounded sum; opposite infinities have none, and an exact zero is negative only when both are. -/
def add : Double → Double → Double
  | .finite s a, .finite t b => ofQuanta (s && t) (signed s a + signed t b)
  | .infinite s, .infinite t => if s = t then .infinite s else .nan
  | .infinite s, .finite _ _ => .infinite s
  | .finite _ _, .infinite t => .infinite t
  | _, _ => .nan

/-- Rounded difference. -/
def sub (x y : Double) : Double := add x (neg y)

/-- Rounded product; zero times infinity has none. -/
def mul : Double → Double → Double
  | .finite s a, .finite t b => ofRatio (s != t) (a.count * b.count) Grid.one
  | .infinite s, .infinite t => .infinite (s != t)
  | .infinite s, .finite t b => if b.count = 0 then .nan else .infinite (s != t)
  | .finite s a, .infinite t => if a.count = 0 then .nan else .infinite (s != t)
  | _, _ => .nan

/-- Rounded quotient; zero by zero and infinity by infinity have none. -/
def div : Double → Double → Double
  | .finite s a, .finite t b =>
      if b.count = 0 then if a.count = 0 then .nan else .infinite (s != t)
      else ofRatio (s != t) (a.count * Grid.one) b.count
  | .infinite _, .infinite _ => .nan
  | .infinite s, .finite t _ => .infinite (s != t)
  | .finite s _, .infinite t => .finite (s != t) .zero
  | _, _ => .nan

instance : Neg Double := ⟨neg⟩
instance : Add Double := ⟨add⟩
instance : Sub Double := ⟨sub⟩
instance : Mul Double := ⟨mul⟩
instance : Div Double := ⟨div⟩

/-- The place of a number on the line, with the infinities at the bound; nothing for not-a-number. -/
def place : Double → Option Int
  | .nan => none
  | .infinite s => some (if s then -(Grid.bound : Int) else Grid.bound)
  | .finite s m => some (signed s m)

/-- Compares two numbers; not-a-number has no order, and the two zeros are equal. -/
def compare? (x y : Double) : Option Ordering :=
  match x.place, y.place with
  | some a, some b => some (compare a b)
  | _, _ => none

/-- Strictly smaller. -/
def lt (x y : Double) : Bool := x.compare? y == some .lt

/-- Smaller or numerically equal. -/
def le (x y : Double) : Bool := x.lt y || x.compare? y == some .eq

/-- Numerically equal: not-a-number differs from itself, and the zeros agree. -/
def same (x y : Double) : Bool := x.compare? y == some .eq

/-- Whether the number is finite. -/
def isFinite : Double → Bool
  | .finite _ _ => true
  | _ => false

/-- Whether the number is not-a-number. -/
def isNaN : Double → Bool
  | .nan => true
  | _ => false

/-- Whether the number is finite and whole. -/
def isWhole : Double → Bool
  | .finite _ m => m.count % Grid.one = 0
  | _ => false

/-- The lesser of two numbers; not-a-number yields to the other, and a tie takes the second. -/
def min (x y : Double) : Double :=
  if x.isNaN then y else if y.isNaN then x else if x.lt y then x else y

/-- The greater of two numbers; not-a-number yields to the other, and a tie takes the second. -/
def max (x y : Double) : Double :=
  if x.isNaN then y else if y.isNaN then x else if y.lt x then x else y

/-- The sum from the left, starting from negative zero so that zeros keep their sign. -/
def sum (xs : List Double) : Double := xs.foldl add negZero

/-- The number rounded to a whole number, a half going to the even neighbour. -/
def roundEven : Double → Double
  | .finite s m => ofRatio s (roundDiv m.count Grid.one * Grid.one) 1
  | x => x

/-- The whole part, clamped to the signed 64-bit range; not-a-number counts as zero. -/
def toInt64 (x : Double) : Int :=
  let clamp (n : Int) : Int := Max.max (-9223372036854775808) (Min.min n 9223372036854775807)
  match x with
  | .nan => 0
  | .infinite s => if s then -9223372036854775808 else 9223372036854775807
  | .finite s m => clamp (if s then -((m.count / Grid.one : Nat) : Int) else (m.count / Grid.one : Nat))

/-- The least whole number not below, clamped to the unsigned 64-bit range. -/
def ceilWord : Double → Nat
  | .nan => 0
  | .infinite s => if s then 0 else 18446744073709551615
  | .finite s m =>
      if s then 0 else Min.min ((m.count + (Grid.one - 1)) / Grid.one) 18446744073709551615

/-- A whole number of the given parts of one, rounded to nearest with ties to even. -/
def roundParts (magnitude : Magnitude) (parts : Nat) : Nat :=
  roundDiv (magnitude.count * parts) Grid.one

/-- Rounding a ratio that is exactly a fitting count gives that count. -/
theorem ofRatio_of_fits {count den : Nat} (negative : Bool) (fits : Grid.Fits count)
    (below : count < Grid.bound) (pos : 0 < den) :
    ofRatio negative (den * count) den = .finite negative ⟨count, fits, below⟩ := by
  unfold ofRatio
  simp only [Grid.nearest_mul_of_fits fits pos, below, dite_true]

/-- Every number but not-a-number is numerically equal to itself. -/
theorem same_self {x : Double} (number : x ≠ .nan) : same x x = true := by
  have placed : ∃ a, x.place = some a := by
    cases x with
    | nan => exact absurd rfl number
    | infinite _ => exact ⟨_, rfl⟩
    | finite _ _ => exact ⟨_, rfl⟩
  obtain ⟨a, found⟩ := placed
  have equal : compare a a = .eq := Std.ReflCmp.compare_self
  simp only [same, compare?, found, equal]
  rfl

/-- Negative zero added to a number leaves it as it is, its sign included. -/
theorem negZero_add (x : Double) : negZero + x = x := by
  cases x with
  | nan => rfl
  | infinite _ => rfl
  | finite negative magnitude =>
    obtain ⟨count, fits, below⟩ := magnitude
    have kept : ofRatio negative count 1 = .finite negative ⟨count, fits, below⟩ := by
      simpa only [Nat.one_mul] using ofRatio_of_fits negative fits below Nat.one_pos
    change ofQuanta (true && negative) (signed true .zero + signed negative _) = _
    have zero : signed true .zero = 0 := rfl
    rw [zero, Int.zero_add, Bool.true_and, ← kept]
    by_cases none : count = 0
    · subst none
      rw [kept]
      cases negative <;> rfl
    · have sign : (signed negative ⟨count, fits, below⟩ < 0) = (negative = true) := by
        cases negative with
        | true => simpa [signed] using Nat.pos_of_ne_zero none
        | false => simp [signed]
      have size : (signed negative ⟨count, fits, below⟩).natAbs = count := by
        cases negative <;> simp [signed]
      have nonzero : signed negative ⟨count, fits, below⟩ ≠ 0 := by omega
      rw [ofQuanta, if_neg nonzero, size]
      simp only [sign, Bool.decide_eq_true]

/-- The sum of some numbers begins with the first of them. -/
theorem sum_cons (x : Double) (xs : List Double) : sum (x :: xs) = xs.foldl add x := by
  have start : add negZero x = x := negZero_add x
  simp only [sum, List.foldl_cons, start]

end Double

end Vigil
