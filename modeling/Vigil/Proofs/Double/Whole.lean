import Vigil.Proofs.Double.Error
import Vigil.Proofs.Double.Order

/-!
# Whole numbers

A whole number of at most fifty-three significant bits is held exactly, and so is every product and
every whole quotient of such numbers that is short enough itself. A quotient that is not whole is
rounded, but never to a whole number, and never past one: the error of rounding is too small. So
division tells which whole numbers divide each other, and the least whole number not below a
quotient is the one not below its rounded value.
-/

namespace Vigil

namespace Grid

/-- A whole number that binary64 holds exactly. -/
structure Held (n : Nat) : Prop where
  fits : Fits (n * one)
  below : n * one < bound

/-- A short number shifted left is held. -/
theorem held_mul_two_pow {n k : Nat} (short : n ≤ 2 ^ 53) (low : k ≤ 900) :
    Held (n * Nat.pow 2 k) := by
  have shifted : n * Nat.pow 2 k * one = n * Nat.pow 2 (k + quantumBits) := by
    rw [Nat.mul_assoc, pow_mul_one]
  constructor
  · rw [shifted]
    exact fits_mul_two_pow _ short
  · calc
      n * Nat.pow 2 k * one = n * Nat.pow 2 (k + quantumBits) := shifted
      _ ≤ Nat.pow 2 53 * Nat.pow 2 (k + quantumBits) := Nat.mul_le_mul_right _ short
      _ = Nat.pow 2 (53 + (k + quantumBits)) := pow_mul_pow _ _
      _ < bound := by
        unfold bound
        apply pow_lt_pow
        unfold topBits
        omega

/-- A short number is held. -/
theorem held_of_le {n : Nat} (short : n ≤ 2 ^ 53) : Held n := by
  have held := held_mul_two_pow (k := 0) short (by decide)
  rwa [show Nat.pow 2 0 = 1 from rfl, Nat.mul_one] at held

/-- Numbers that are short enough in thousands are held: a thousand is eight times an odd number. -/
theorem held_mul_thousand {n : Nat} (short : n * 125 ≤ 2 ^ 53) : Held (n * 1000) := by
  have held := held_mul_two_pow (k := 3) short (by decide)
  rwa [show Nat.pow 2 3 = 8 from rfl, Nat.mul_assoc] at held

/-- One half of an odd number that is short is a point of the grid. -/
theorem fits_half {odd : Nat} (short : odd ≤ 2 ^ 53) :
    ∃ middle, 2 * middle = one * odd ∧ Fits middle := by
  have halves : 2 * Nat.pow 2 (quantumBits - 1) = one := by
    have pos : 0 < quantumBits := by decide
    unfold one
    generalize quantumBits = bits at pos ⊢
    exact two_mul_pow_pred pos
  refine ⟨odd * Nat.pow 2 (quantumBits - 1), ?_, fits_mul_two_pow _ short⟩
  rw [← halves]
  ring

/-- A ratio of short numbers that is not zero has all significant bits. -/
theorem normal_of_pos {n den : Nat} (pos : 0 < n) (divisor : 0 < den) (modest : den ≤ 2 ^ 53) :
    2 ^ 52 ≤ n * one / den := by
  rw [Nat.le_div_iff_mul_le divisor]
  calc
    2 ^ 52 * den ≤ 2 ^ 52 * 2 ^ 53 := Nat.mul_le_mul_left _ modest
    _ = Nat.pow 2 105 := by decide
    _ ≤ one := Nat.le_of_lt (pow_lt_one (by decide))
    _ ≤ n * one := Nat.le_mul_of_pos_left _ pos

/-- A ratio of whole numbers is rounded to a whole number only if it is one. -/
theorem eq_mul_of_nearest {n den quotient : Nat} (short : n < 2 ^ 53) (divisor : 0 < den)
    (modest : den ≤ 2 ^ 53) (whole : nearest (n * one) den = quotient * one) :
    n = den * quotient := by
  by_cases zero : n = 0
  · subst zero
    have least : nearest (0 * one) den ≤ 0 := nearest_le fits_zero divisor (by simp)
    have none : quotient * one = 0 := by omega
    rcases Nat.mul_eq_zero.1 none with rfl | absurdity
    · rfl
    · exact absurd absurdity (Nat.ne_of_gt one_pos)
  · have normal := normal_of_pos (Nat.pos_of_ne_zero zero) divisor modest
    obtain ⟨up, down⟩ := nearest_error divisor normal
    rw [whole] at up down
    have above : 2 ^ 53 * (den * quotient) ≤ 2 ^ 53 * n + n := by
      apply Nat.le_of_mul_le_mul_right _ one_pos
      calc
        2 ^ 53 * (den * quotient) * one = 2 ^ 53 * (den * (quotient * one)) := by ring
        _ ≤ 2 ^ 53 * (n * one) + n * one := up
        _ = (2 ^ 53 * n + n) * one := by ring
    have below : 2 ^ 53 * n ≤ 2 ^ 53 * (den * quotient) + n := by
      apply Nat.le_of_mul_le_mul_right _ one_pos
      calc
        2 ^ 53 * n * one = 2 ^ 53 * (n * one) := by ring
        _ ≤ 2 ^ 53 * (den * (quotient * one)) + n * one := down
        _ = (2 ^ 53 * (den * quotient) + n) * one := by ring
    omega

end Grid

namespace Double

/-- The number nearest to a whole number with a sign. -/
def whole (negative : Bool) (n : Nat) : Double := ofRatio negative (n * Grid.one) 1

/-- Natural numbers have no sign. -/
theorem ofNat_eq_whole (n : Nat) : ofNat n = whole false n := rfl

/-- Nor have the numbers that are written out. -/
theorem literal_eq_whole (n : Nat) : (OfNat.ofNat n : Double) = whole false n :=
  ofNat_eq_whole n

/-- Rounding to a whole number yields one. -/
theorem roundEven_finite (negative : Bool) (m : Magnitude) :
    roundEven (.finite negative m) = whole negative (roundDiv m.count Grid.one) := rfl

/-- A held number is represented by itself. -/
theorem whole_of_held {n : Nat} (negative : Bool) (held : Grid.Held n) :
    whole negative n = .finite negative ⟨n * Grid.one, held.fits, held.below⟩ := by
  have exact := ofRatio_of_fits negative held.fits held.below Nat.one_pos
  rwa [Nat.one_mul] at exact

/-- A factor of both parts of a ratio does not change its number. -/
theorem ofRatio_mul_mul_left {factor : Nat} (pos : 0 < factor) (negative : Bool) (num den : Nat) :
    ofRatio negative (factor * num) (factor * den) = ofRatio negative num den := by
  simp only [ofRatio, Grid.nearest_mul_mul_left pos]

/-- The product of held numbers is their product, rounded once. -/
theorem whole_mul_whole {a b : Nat} (s t : Bool) (first : Grid.Held a) (second : Grid.Held b) :
    whole s a * whole t b = whole (s != t) (a * b) := by
  rw [whole_of_held s first, whole_of_held t second]
  change mul _ _ = _
  simp only [mul]
  have factored : a * Grid.one * (b * Grid.one) = Grid.one * (a * b * Grid.one) := by ring
  have scaled := ofRatio_mul_mul_left Grid.one_pos (s != t) (a * b * Grid.one) 1
  rwa [Nat.mul_one, ← factored] at scaled

/-- A finite number times a held one is their product, rounded once. -/
theorem finite_mul_whole {n : Nat} (negative : Bool) (m : Magnitude) (held : Grid.Held n) :
    .finite negative m * whole false n = ofRatio negative (m.count * n) 1 := by
  rw [whole_of_held false held]
  change mul _ _ = _
  have factored : m.count * (n * Grid.one) = Grid.one * (m.count * n) := by ring
  have scaled := ofRatio_mul_mul_left Grid.one_pos negative (m.count * n) 1
  rw [Nat.mul_one, ← factored] at scaled
  simpa only [mul, Bool.bne_false] using scaled

/-- A finite number divided by a held one is their ratio, rounded once. -/
theorem finite_div_whole {b : Nat} (s t : Bool) (m : Magnitude) (held : Grid.Held b)
    (divisor : 0 < b) : .finite s m / whole t b = ofRatio (s != t) m.count b := by
  have nonzero : b * Grid.one ≠ 0 := Nat.ne_of_gt (Nat.mul_pos divisor Grid.one_pos)
  rw [whole_of_held t held]
  change div _ _ = _
  simp only [div, if_neg nonzero]
  rw [Nat.mul_comm m.count, Nat.mul_comm b]
  exact ofRatio_mul_mul_left Grid.one_pos _ _ _

/-- The quotient of held numbers is their ratio, rounded once. -/
theorem whole_div_whole {a b : Nat} (s t : Bool) (first : Grid.Held a) (second : Grid.Held b)
    (divisor : 0 < b) : whole s a / whole t b = ofRatio (s != t) (a * Grid.one) b := by
  rw [whole_of_held s first]
  exact finite_div_whole s t _ second divisor

/-- A whole ratio is its whole number. -/
theorem ofRatio_mul {den quotient : Nat} (negative : Bool) (divisor : 0 < den) :
    ofRatio negative (den * quotient * Grid.one) den = whole negative quotient := by
  have scaled := ofRatio_mul_mul_left divisor negative (quotient * Grid.one) 1
  rwa [Nat.mul_one, ← Nat.mul_assoc] at scaled

/-- The ratio of a short number to a whole number is finite. -/
theorem exists_finite_ofRatio {n den : Nat} (negative : Bool) (short : n ≤ 2 ^ 53)
    (divisor : 0 < den) : ∃ m : Magnitude, m.count = Grid.nearest (n * Grid.one) den ∧
      ofRatio negative (n * Grid.one) den = .finite negative m := by
  have held := Grid.held_of_le short
  have least : Grid.nearest (n * Grid.one) den ≤ n * Grid.one :=
    Grid.nearest_le held.fits divisor (Nat.le_mul_of_pos_left _ divisor)
  have below : Grid.nearest (n * Grid.one) den < Grid.bound := Nat.lt_of_le_of_lt least held.below
  exact ⟨⟨_, Grid.fits_nearest _ _, below⟩, rfl, by simp only [ofRatio, dif_pos below]⟩

/-- A rounded ratio is whole exactly when the divisor divides. -/
theorem isWhole_ofRatio_iff {n den : Nat} (negative : Bool) (short : n < 2 ^ 53)
    (divisor : 0 < den) (modest : den ≤ 2 ^ 53) :
    (ofRatio negative (n * Grid.one) den).isWhole = true ↔ den ∣ n := by
  obtain ⟨m, count, finite⟩ := exists_finite_ofRatio negative (Nat.le_of_lt short) divisor
  have rounded : (ofRatio negative (n * Grid.one) den).isWhole = true ↔ Grid.one ∣ m.count := by
    rw [finite, Nat.dvd_iff_mod_eq_zero]
    exact decide_eq_true_iff
  rw [rounded, count]
  constructor
  · rintro ⟨quotient, reached⟩
    rw [Nat.mul_comm Grid.one] at reached
    exact ⟨quotient, Grid.eq_mul_of_nearest short divisor modest reached⟩
  · rintro ⟨quotient, rfl⟩
    have smaller : quotient ≤ 2 ^ 53 :=
      Nat.le_trans (Nat.le_mul_of_pos_left _ divisor) (Nat.le_of_lt short)
    have held := Grid.held_of_le smaller
    have reached : Grid.nearest (den * quotient * Grid.one) den = quotient * Grid.one := by
      rw [Nat.mul_assoc]
      exact Grid.nearest_mul_of_fits held.fits divisor
    exact ⟨quotient, by rw [reached, Nat.mul_comm]⟩

/-- The integer of a held number. -/
theorem toInt64_whole {n : Nat} (negative : Bool) (short : n ≤ 2 ^ 53) :
    (whole negative n).toInt64 = if negative then -(n : Int) else n := by
  rw [whole_of_held negative (Grid.held_of_le short)]
  simp only [toInt64, Nat.mul_div_cancel n Grid.one_pos]
  split <;> omega

/-- The place of a held number. -/
theorem place_whole {n : Nat} (negative : Bool) (held : Grid.Held n) :
    (whole negative n).place =
      some (if negative then -((n * Grid.one : Nat) : Int) else ((n * Grid.one : Nat) : Int)) := by
  rw [whole_of_held negative held]
  rfl

/-- Only zero equals zero, with either sign. -/
theorem same_zero_whole {n : Nat} (negative : Bool) (held : Grid.Held n) :
    (whole negative n).same 0 = true ↔ n = 0 := by
  have origin : n * Grid.one = 0 ↔ n = 0 := by simp [Nat.ne_of_gt Grid.one_pos]
  rw [same_iff, place_whole negative held, place_zero, ← origin]
  constructor
  · rintro ⟨place, reached, origin⟩
    cases origin
    simp only [Option.some.injEq] at reached
    split at reached <;> omega
  · intro zero
    refine ⟨0, ?_, rfl⟩
    rw [zero]
    cases negative <;> rfl

/-- Held numbers without a sign are ordered as whole numbers are. -/
theorem whole_le_whole {a b : Nat} (first : Grid.Held a) (second : Grid.Held b) :
    (whole false a).le (whole false b) = true ↔ a ≤ b := by
  have scaled : a * Grid.one ≤ b * Grid.one ↔ a ≤ b := Nat.mul_le_mul_right_iff Grid.one_pos
  rw [le_iff_of_place (place_whole false first) (place_whole false second), ← scaled]
  exact Int.ofNat_le

/-- A number whose size is less than a whole number is finite and less in quanta. -/
theorem exists_of_abs_lt {x : Double} {n : Nat} (held : Grid.Held n)
    (less : x.abs.lt (ofNat n) = true) :
    ∃ negative m, x = .finite negative m ∧ m.count < n * Grid.one := by
  have below := held.below
  have limit := place_whole false held
  rw [ofNat_eq_whole] at less
  cases x with
  | nan => cases less
  | infinite negative =>
    have order := (lt_iff_of_place (x := .infinite false) rfl limit).1 less
    simp only [Bool.false_eq_true, if_false] at order
    omega
  | finite negative m =>
    have order := (lt_iff_of_place (x := .finite false m) rfl limit).1 less
    exact ⟨negative, m, rfl, Int.ofNat_lt.1 order⟩

/-- A finite number without a sign is above zero when it has a quantum. -/
theorem zero_lt_finite (m : Magnitude) :
    (0 : Double).lt (.finite false m) = true ↔ 0 < m.count := by
  rw [lt_iff_of_place place_zero (y := .finite false m) rfl]
  exact Int.ofNat_lt

end Double

end Vigil
