import Mathlib.Algebra.Order.Group.Abs
import Vigil.Proofs.Double.Overflow
import Vigil.Proofs.Double.Sign

/-!
# Rational values with a sign

A finite number is a rational with a sign, and finite numbers are ordered as their rationals are. A
sum of finite numbers and a quotient by a positive one are exact rationals that are rounded once.
Rounding is odd and monotone, also into the infinities, and it keeps what is a number already: so
sums and quotients are monotone. It has a small error: a part of the rational, and for a quotient
half a quantum more, as only a quotient is ever less than a quantum.
-/

namespace Vigil

attribute [local irreducible] Grid.quantumBits

/-- The value of nothing. -/
@[simp] theorem Magnitude.value_zero : Magnitude.zero.value = 0 := by
  simp [value, zero]

namespace Double

variable {x y : Double}

/-! ## Values -/

/-- The rational number that a finite number is. -/
def value : Double → ℚ
  | .finite false m => m.value
  | .finite true m => -m.value
  | _ => 0

/-- Zeros have the value zero. -/
@[simp] theorem value_zero (negative : Bool) : (finite negative .zero).value = 0 := by
  cases negative <;> simp [value]

/-- The value of the opposite number is the opposite value. -/
@[simp] theorem value_neg (x : Double) : (-x).value = -x.value := by
  cases x with
  | nan => exact neg_zero.symm
  | infinite negative => exact neg_zero.symm
  | finite negative m =>
    cases negative with
    | false => rfl
    | true => exact (neg_neg m.value).symm

/-- The place of a finite number is its value in quanta. -/
theorem place_of_isFinite (finite : x.isFinite = true) :
    ∃ a : ℤ, x.place = some a ∧ x.value = a / Grid.one := by
  obtain ⟨negative, m, rfl⟩ := exists_of_isFinite finite
  refine ⟨_, rfl, ?_⟩
  cases negative with
  | false => rfl
  | true =>
    rw [value, Magnitude.value, ← neg_div]
    simp [signed]

/-- Finite numbers are ordered as their values are. -/
theorem le_iff_value (first : x.isFinite = true) (second : y.isFinite = true) :
    x.le y = true ↔ x.value ≤ y.value := by
  obtain ⟨a, place, valued⟩ := place_of_isFinite first
  obtain ⟨b, place', valued'⟩ := place_of_isFinite second
  rw [le_iff_of_place place place', valued, valued', div_le_div_iff_of_pos_right Grid.one_pos_rat,
    Int.cast_le]

/-- They are equal when their values are. -/
theorem same_iff_value (first : x.isFinite = true) (second : y.isFinite = true) :
    x.same y = true ↔ x.value = y.value := by
  rw [le_antisymm_iff (a := x.value), ← le_iff_value first second, ← le_iff_value second first]
  constructor
  · intro same
    obtain ⟨a, place, place'⟩ := same_iff.1 same
    exact ⟨(le_iff_of_place place place').2 (Int.le_refl a),
      (le_iff_of_place place' place).2 (Int.le_refl a)⟩
  · rintro ⟨le, ge⟩
    exact same_of_le_of_le le ge

/-- A number that equals a finite one is finite. -/
theorem isFinite_of_same (same : x.same y = true) (finite : x.isFinite = true) :
    y.isFinite = true := by
  obtain ⟨a, place, place'⟩ := same_iff.1 same
  obtain ⟨negative, m, rfl⟩ := exists_of_isFinite finite
  cases place
  obtain ⟨low, high⟩ := signed_bounds negative m
  cases y with
  | nan => cases place'
  | infinite sign =>
    have limit := Option.some.inj place'
    cases sign <;> simp at limit <;> omega
  | finite sign n => rfl

/-! ## Rounding -/

/-- A ratio with the other sign is the opposite number. -/
theorem neg_ofRatio (negative : Bool) (num den : ℕ) :
    -ofRatio negative num den = ofRatio (!negative) num den := by
  unfold ofRatio
  split <;> rfl

namespace Rounds

variable {q r : ℚ}

/-- Only a rational that is not below zero is rounded without a sign. -/
theorem nonneg (rounds : Rounds q x) : 0 ≤ q := by
  obtain ⟨num, den, -, rfl, -⟩ := rounds
  positivity

/-- Rounding is monotone. -/
theorem mono (first : Rounds q x) (second : Rounds r y) (le : q ≤ r) : x.le y = true := by
  obtain ⟨num, den, pos, rfl, rfl⟩ := first
  obtain ⟨num', den', pos', rfl, rfl⟩ := second
  have divisor : (0 : ℚ) < den := Nat.cast_pos.2 pos
  have divisor' : (0 : ℚ) < den' := Nat.cast_pos.2 pos'
  rw [← div_div, ← div_div, div_le_div_iff_of_pos_right Grid.one_pos_rat,
    div_le_div_iff₀ divisor divisor'] at le
  have rounded := Grid.nearest_mono pos pos' (by exact_mod_cast le)
  rw [le_iff_of_place (place_ofRatio _ _ _) (place_ofRatio _ _ _)]
  exact Int.ofNat_le.2 (by omega)

/-- A magnitude is its own rounding. -/
theorem of_magnitude (m : Magnitude) : Rounds m.value (.finite false m) := by
  refine ⟨m.count, 1, Nat.one_pos, by rw [Magnitude.value, Nat.cast_one, one_mul], ?_⟩
  have kept := ofRatio_of_fits false m.fits m.below Nat.one_pos
  rw [Nat.one_mul] at kept
  exact kept.symm

/-- A finite number that is rounded without a sign is a magnitude. -/
theorem exists_magnitude (rounds : Rounds q x) (finite : x.isFinite = true) :
    ∃ m, x = .finite false m := by
  obtain ⟨num, den, -, -, rfl⟩ := rounds
  unfold ofRatio at finite ⊢
  split
  · exact ⟨_, rfl⟩
  · rw [dif_neg ‹_›] at finite
    cases finite

/-- The error is one part in `2 ^ 53` and half a quantum at most. -/
theorem error {m : Magnitude} (rounds : Rounds q (.finite false m)) :
    |m.value - q| ≤ q / 2 ^ 53 + 1 / (2 * Grid.one) := by
  obtain ⟨num, den, pos, exact, same⟩ := rounds
  have count := count_of_ofRatio same.symm
  have divisor : (0 : ℚ) < den := Nat.cast_pos.2 pos
  have unit := ne_of_gt Grid.one_pos_rat
  obtain ⟨c, scaled⟩ : ∃ c : ℚ, q = c / Grid.one := ⟨q * Grid.one, by field_simp⟩
  have whole : (num : ℚ) = den * c := by
    rw [scaled, div_mul_eq_div_div, div_left_inj' unit, eq_div_iff (ne_of_gt divisor)] at exact
    rw [← exact, mul_comm]
  obtain ⟨up, down⟩ := Grid.nearest_error_half num pos
  rw [← count] at up down
  have up' : (2 : ℚ) ^ 53 * (den * m.count) ≤ 2 ^ 53 * num + num + 2 ^ 52 * den := by
    exact_mod_cast up
  have down' : (2 : ℚ) ^ 53 * num ≤ 2 ^ 53 * (den * m.count) + num + 2 ^ 52 * den := by
    exact_mod_cast down
  rw [whole] at up' down'
  have gap : q / 2 ^ 53 + 1 / (2 * Grid.one) = (c / 2 ^ 53 + 1 / 2) / Grid.one := by
    rw [scaled]
    field_simp
  rw [gap, scaled, Magnitude.value, Grid.abs_sub_le_iff_quanta]
  constructor <;> refine le_of_mul_le_mul_left ?_ divisor <;> linarith

end Rounds

/-- The number is the rational, rounded once. -/
def Rounded (q : ℚ) (x : Double) : Prop := Rounds q x ∨ Rounds (-q) (-x)

namespace Rounded

variable {q r : ℚ}

/-- Rounding is odd. -/
theorem neg (rounded : Rounded q x) : Rounded (-q) (-x) := by
  rcases rounded with up | down
  · exact .inr (by rwa [neg_neg, Double.neg_neg])
  · exact .inl down

/-- A finite number is its own rounding. -/
theorem of_isFinite (finite : x.isFinite = true) : Rounded x.value x := by
  obtain ⟨negative, m, rfl⟩ := exists_of_isFinite finite
  cases negative with
  | false => exact .inl (Rounds.of_magnitude m)
  | true => exact (Rounded.neg (.inl (Rounds.of_magnitude m)) :)

/-- A number is finite when the rational that is rounded is in range. -/
theorem isFinite_iff (rounded : Rounded q x) : x.isFinite = true ↔ |q| < overflow := by
  rcases rounded with up | down
  · rw [up.isFinite_iff, abs_of_nonneg up.nonneg]
  · rw [← isFinite_neg, down.isFinite_iff, ← abs_neg, abs_of_nonneg down.nonneg]

/-- Rounding is monotone. -/
theorem mono (first : Rounded q x) (second : Rounded r y) (le : q ≤ r) : x.le y = true := by
  have zero : Rounds 0 (.finite false .zero) := by
    simpa using Rounds.of_magnitude .zero
  rcases first with up | down <;> rcases second with up' | down'
  · exact up.mono up' le
  · have below := up.mono zero (le.trans (neg_nonneg.1 down'.nonneg))
    have above := Double.neg_le_neg (down'.mono zero (neg_nonpos.2 (up.nonneg.trans le)))
    rw [Double.neg_neg] at above
    exact Double.le_trans below (Double.le_trans (by decide +kernel) above)
  · have below := Double.neg_le_neg (zero.mono down down.nonneg)
    rw [Double.neg_neg] at below
    exact Double.le_trans below (Double.le_trans (by decide +kernel) (zero.mono up' up'.nonneg))
  · have reversed := Double.neg_le_neg (down'.mono down (neg_le_neg le))
    rwa [Double.neg_neg, Double.neg_neg] at reversed

/-- The error is one part in `2 ^ 53` and half a quantum at most. -/
theorem error (rounded : Rounded q x) (finite : x.isFinite = true) :
    |x.value - q| ≤ |q| / 2 ^ 53 + 1 / (2 * Grid.one) := by
  rcases rounded with up | down
  · obtain ⟨m, rfl⟩ := up.exists_magnitude finite
    rw [abs_of_nonneg up.nonneg]
    exact up.error
  · obtain ⟨m, same⟩ := down.exists_magnitude (by rwa [isFinite_neg])
    rw [same] at down
    have opposite : x.value = -m.value := by
      rw [← Double.neg_neg x, same]
      rfl
    rw [opposite, ← abs_neg, ← abs_neg q, abs_of_nonneg down.nonneg, neg_sub', neg_neg]
    exact down.error

/-- A rational between numbers is rounded to a number between them. -/
theorem between {least greatest : Double} (rounded : Rounded q x) (first : least.isFinite = true)
    (last : greatest.isFinite = true) (above : least.value ≤ q) (below : q ≤ greatest.value) :
    least.le x = true ∧ x.le greatest = true :=
  ⟨(of_isFinite first).mono rounded above, rounded.mono (of_isFinite last) below⟩

/-- A rational that is a number is kept. -/
theorem eq_value {held : Double} (rounded : Rounded q x) (finite : held.isFinite = true)
    (exact : held.value = q) : x.isFinite = true ∧ x.value = q := by
  have inRange := (of_isFinite finite).isFinite_iff.1 finite
  rw [exact] at inRange
  have kept := rounded.isFinite_iff.2 inRange
  obtain ⟨above, below⟩ := rounded.between finite finite exact.le exact.ge
  rw [← exact]
  exact ⟨kept, (same_iff_value kept finite).1 (same_of_le_of_le below above)⟩

end Rounded

/-! ## Sums -/

/-- A number of quanta is a ratio without a sign, or the opposite of one. -/
theorem exists_ofQuanta (zeroSign : Bool) (quanta : ℤ) :
    ∃ n : ℕ, quanta = n ∧ ofQuanta zeroSign quanta = ofRatio false n 1 ∨
      quanta = -n ∧ ofQuanta zeroSign quanta = -ofRatio false n 1 := by
  refine ⟨quanta.natAbs, ?_⟩
  unfold ofQuanta
  split
  · rename_i none
    subst none
    have zero := ofRatio_of_fits false Grid.fits_zero Grid.bound_pos Nat.one_pos
    rw [Nat.mul_zero] at zero
    rw [Int.natAbs_zero, zero]
    cases zeroSign with
    | false => exact .inl ⟨rfl, rfl⟩
    | true => exact .inr ⟨rfl, rfl⟩
  · rcases Int.lt_or_gt_of_ne ‹_› with below | above
    · rw [neg_ofRatio, decide_eq_true below]
      exact .inr ⟨by omega, rfl⟩
    · rw [decide_eq_false (by omega)]
      exact .inl ⟨by omega, rfl⟩

/-- A count of quanta is rounded once. -/
theorem rounds_count (n : ℕ) : Rounds (n / Grid.one) (ofRatio false n 1) :=
  ⟨n, 1, Nat.one_pos, by rw [Nat.cast_one, one_mul], rfl⟩

/-- Its error is one part in `2 ^ 53` at most. -/
theorem count_error {n : ℕ} (finite : (ofRatio false n 1).isFinite = true) :
    |(ofRatio false n 1).value - n / Grid.one| ≤ n / Grid.one / 2 ^ 53 := by
  obtain ⟨m, same⟩ := (rounds_count n).exists_magnitude finite
  obtain ⟨up, down⟩ := Grid.nearest_error_one n
  rw [← count_of_ofRatio same] at up down
  have up' : (2 : ℚ) ^ 53 * m.count ≤ 2 ^ 53 * n + n := by exact_mod_cast up
  have down' : (2 : ℚ) ^ 53 * n ≤ 2 ^ 53 * m.count + n := by exact_mod_cast down
  rw [same, value, Magnitude.value, div_right_comm, Grid.abs_sub_le_iff_quanta]
  constructor <;> linarith

/-- A sum of finite numbers is their exact sum in quanta, rounded. -/
theorem exists_add (first : x.isFinite = true) (second : y.isFinite = true) :
    ∃ n : ℕ, x.value + y.value = n / Grid.one ∧ x + y = ofRatio false n 1 ∨
      x.value + y.value = -(n / Grid.one) ∧ x + y = -ofRatio false n 1 := by
  obtain ⟨s, a, rfl⟩ := exists_of_isFinite first
  obtain ⟨t, b, rfl⟩ := exists_of_isFinite second
  obtain ⟨i, placed, exact⟩ := place_of_isFinite first
  obtain ⟨j, placed', exact'⟩ := place_of_isFinite second
  cases placed
  cases placed'
  rw [exact, exact', ← add_div, ← Int.cast_add]
  obtain ⟨n, ⟨same, rounded⟩ | ⟨same, rounded⟩⟩ :=
    exists_ofQuanta (s && t) (signed s a + signed t b)
  · exact ⟨n, .inl ⟨by rw [same, Int.cast_natCast], rounded⟩⟩
  · exact ⟨n, .inr ⟨by rw [same, Int.cast_neg, Int.cast_natCast, neg_div], rounded⟩⟩

/-- A sum of finite numbers is rounded once. -/
theorem rounded_add (first : x.isFinite = true) (second : y.isFinite = true) :
    Rounded (x.value + y.value) (x + y) := by
  obtain ⟨n, ⟨exact, rounded⟩ | ⟨exact, rounded⟩⟩ := exists_add first second
  · rw [exact, rounded]
    exact .inl (rounds_count n)
  · rw [exact, rounded]
    exact Rounded.neg (.inl (rounds_count n))

/-- Its error is one part in `2 ^ 53` at most. -/
theorem add_error (finite : (x + y).isFinite = true) :
    |(x + y).value - (x.value + y.value)| ≤ |x.value + y.value| / 2 ^ 53 := by
  obtain ⟨first, second⟩ := isFinite_of_add finite
  obtain ⟨n, ⟨exact, rounded⟩ | ⟨exact, rounded⟩⟩ := exists_add first second
  · rw [rounded] at finite ⊢
    rw [exact, abs_of_nonneg (a := (n : ℚ) / Grid.one) (by positivity)]
    exact count_error finite
  · rw [rounded, isFinite_neg] at finite
    rw [rounded, exact, value_neg, abs_neg (_ / _), neg_sub_neg, abs_sub_comm,
      abs_of_nonneg (a := (n : ℚ) / Grid.one) (by positivity)]
    exact count_error finite

/-- A quotient of a finite number by a positive one is rounded once. -/
theorem rounded_div {m : Magnitude} (inRange : x.isFinite = true) (pos : 0 < m.value) :
    Rounded (x.value / m.value) (x / .finite false m) := by
  obtain ⟨negative, n, rfl⟩ := exists_of_isFinite inRange
  cases negative with
  | false => exact .inl (rounds_div n pos)
  | true =>
    have opposite : -(finite true n / finite false m) = finite false n / finite false m := by
      have divisor : m.count ≠ 0 := Nat.ne_of_gt (Magnitude.value_pos_iff.1 pos)
      change -div _ _ = div _ _
      simp only [div, if_neg divisor, neg_ofRatio, Bool.bne_false, Bool.not_true]
    refine .inr ?_
    rw [opposite, value, neg_div, neg_neg]
    exact rounds_div n pos

/-! ## Monotone operations -/

/-- Minus infinity is the least number. -/
theorem negInfinity_le (number : x ≠ .nan) : (infinite true).le x = true := by
  have bound := Grid.bound_pos
  cases x with
  | nan => exact absurd rfl number
  | infinite negative =>
    rw [le_iff_of_place rfl rfl]
    cases negative <;> simp
  | finite negative m =>
    exact (le_iff_of_place rfl rfl).2 (Int.le_of_lt (signed_bounds negative m).1)

/-- Infinity is the greatest number. -/
theorem le_infinity (number : x ≠ .nan) : x.le (infinite false) = true := by
  have opposite : -x ≠ .nan := by
    intro absent
    rw [← Double.neg_neg x, absent] at number
    exact number rfl
  have reversed := Double.neg_le_neg (negInfinity_le opposite)
  rwa [Double.neg_neg] at reversed

/-- Only infinity is above infinity. -/
theorem eq_infinity_of_le (above : (infinite false).le x = true) : x = infinite false := by
  cases x with
  | nan => cases above
  | infinite negative =>
    have bound := Grid.bound_pos
    have order := (le_iff_of_place rfl rfl).1 above
    cases negative with
    | false => rfl
    | true => simp at order; omega
  | finite negative m =>
    have order := (le_iff_of_place rfl rfl).1 above
    exact absurd (signed_bounds negative m).2 (Int.not_lt.2 order)

/-- Only minus infinity is below minus infinity. -/
theorem eq_negInfinity_of_le (below : x.le (infinite true) = true) : x = infinite true := by
  have opposite := eq_infinity_of_le (Double.neg_le_neg below)
  rw [← Double.neg_neg x, opposite]
  rfl

/-- Two operations that keep the infinities are monotone together when they are so on finite
numbers. -/
theorem le_of_isFinite {f g : Double → Double}
    (first : ∀ negative, f (infinite negative) = infinite negative)
    (second : ∀ negative, g (infinite negative) = infinite negative)
    (inner : ∀ {x y : Double}, x.isFinite = true → y.isFinite = true → x.le y = true →
      (f x).le (g y) = true) (le : x.le y = true) : (f x).le (g y) = true := by
  have self {z : Double} (finite : z.isFinite = true) : f z ≠ nan ∧ g z ≠ nan :=
    ne_nan_of_le (inner finite finite (le_self (by rintro rfl; cases finite)))
  cases y with
  | nan => exact absurd rfl (ne_nan_of_le le).2
  | infinite negative =>
    rw [second]
    cases negative with
    | true =>
      rw [eq_negInfinity_of_le le, first]
      exact le_self nofun
    | false =>
      apply le_infinity
      cases x with
      | nan => exact absurd rfl (ne_nan_of_le le).1
      | infinite negative =>
        rw [first]
        exact nofun
      | finite negative m => exact (self rfl).1
  | finite sign n =>
    cases x with
    | nan => exact absurd rfl (ne_nan_of_le le).1
    | infinite negative =>
      cases negative with
      | true =>
        rw [first]
        exact negInfinity_le (self rfl).2
      | false => cases eq_infinity_of_le le
    | finite negative m => exact inner rfl rfl le

/-- Adding finite numbers is monotone. -/
theorem add_mono {a b : Double} (le : x.le y = true) (first : a.isFinite = true)
    (second : b.isFinite = true) (added : a.le b = true) : (x + a).le (y + b) = true := by
  refine le_of_isFinite (f := (· + a)) (g := (· + b)) ?_ ?_ ?_ le
  · intro negative
    obtain ⟨sign, m, rfl⟩ := exists_of_isFinite first
    rfl
  · intro negative
    obtain ⟨sign, m, rfl⟩ := exists_of_isFinite second
    rfl
  · intro x y inRange inRange' le
    exact (rounded_add inRange first).mono (rounded_add inRange' second)
      (add_le_add ((le_iff_value inRange inRange').1 le) ((le_iff_value first second).1 added))

/-- Dividing by a positive number is monotone. -/
theorem div_mono {m : Magnitude} (le : x.le y = true) (pos : 0 < m.value) :
    (x / .finite false m).le (y / .finite false m) = true := by
  refine le_of_isFinite (f := (· / .finite false m)) (g := (· / .finite false m))
    (infinite_div · m) (infinite_div · m) ?_ le
  intro x y inRange inRange' le
  exact (rounded_div inRange pos).mono (rounded_div inRange' pos)
    (div_le_div_of_nonneg_right ((le_iff_value inRange inRange').1 le) pos.le)

end Double

end Vigil
