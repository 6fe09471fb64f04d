import Mathlib.Algebra.Order.Field.Basic
import Mathlib.Data.Rat.Cast.Order
import Mathlib.Tactic.FieldSimp
import Mathlib.Tactic.NormNum
import Vigil.Proofs.Double.Whole

/-!
# Rational values

A finite magnitude is a rational number, and every operation on numbers rounds an exact rational
once. Rounding is monotone, it keeps the rationals that are magnitudes, and away from the ends of
the range it leaves of a rational all but one part in `2 ^ 53`. So after some operations the
relative error is at most as many such parts as there were roundings, up to their products.
-/

namespace Vigil

attribute [local irreducible] Grid.quantumBits

namespace Grid

/-- One, as a rational number of quanta, is not zero. -/
theorem one_pos_rat : (0 : ℚ) < (one : ℚ) := Nat.cast_pos.2 one_pos

/-- Numbers of quanta are as far from each other as the counts are. -/
theorem abs_sub_le_iff_quanta {a b gap : ℚ} :
    |a / one - b / one| ≤ gap / one ↔ a ≤ b + gap ∧ b ≤ a + gap := by
  rw [← sub_div, abs_div, abs_of_pos one_pos_rat, div_le_div_iff_of_pos_right one_pos_rat,
    abs_sub_le_iff, sub_le_iff_le_add', sub_le_iff_le_add']

end Grid

namespace Magnitude

/-- The rational number that a magnitude is. -/
def value (m : Magnitude) : ℚ := m.count / Grid.one

/-- Magnitudes are not below zero. -/
theorem value_nonneg (m : Magnitude) : 0 ≤ m.value :=
  div_nonneg (Nat.cast_nonneg _) (Nat.cast_nonneg _)

/-- A magnitude is positive when it has a quantum. -/
theorem value_pos_iff {m : Magnitude} : 0 < m.value ↔ 0 < m.count := by
  rw [value, div_pos_iff_of_pos_right Grid.one_pos_rat, Nat.cast_pos]

/-- A magnitude is determined by its value. -/
theorem count_eq_of_value {m : Magnitude} {n : ℕ} (same : m.value = n) :
    m.count = n * Grid.one := by
  rw [value, div_eq_iff (ne_of_gt Grid.one_pos_rat)] at same
  exact_mod_cast same

/-- Short binary fractions are magnitudes. -/
theorem exists_value_eq {n k : ℕ} (short : n ≤ 2 ^ 53) (few : k ≤ 200) :
    ∃ m : Magnitude, m.value = n / 2 ^ k := by
  have room : k ≤ Grid.quantumBits := by
    unfold Grid.quantumBits
    omega
  have split : Nat.pow 2 (Grid.quantumBits - k) * Nat.pow 2 k = Grid.one := by
    unfold Grid.one
    rw [Grid.pow_mul_pow, Nat.sub_add_cancel room]
  have smaller : n * Nat.pow 2 (Grid.quantumBits - k) ≤ 2 ^ 53 * Grid.one := by
    rw [← split]
    exact Nat.mul_le_mul short (Nat.le_mul_of_pos_right _ (Grid.pow_pos k))
  have below := Nat.lt_of_le_of_lt smaller (Grid.held_of_le (Nat.le_refl (2 ^ 53))).below
  refine ⟨⟨_, Grid.fits_mul_two_pow _ short, below⟩, ?_⟩
  have power : ((Nat.pow 2 k : ℕ) : ℚ) = 2 ^ k := Nat.cast_pow 2 k
  rw [value, div_eq_div_iff (ne_of_gt Grid.one_pos_rat) (by positivity), ← power, ← split]
  push_cast
  ring

/-- So are short multiples of powers of two. -/
theorem exists_value_eq_mul {n k : ℕ} (short : n ≤ 2 ^ 53) (few : k ≤ 200) :
    ∃ m : Magnitude, m.value = n * 2 ^ k := by
  have held := Grid.held_mul_two_pow short (Nat.le_trans few (by decide))
  refine ⟨⟨_, held.fits, held.below⟩, ?_⟩
  have power : ((Nat.pow 2 k : ℕ) : ℚ) = 2 ^ k := Nat.cast_pow 2 k
  rw [value, Nat.cast_mul, Nat.cast_mul, power, mul_div_assoc, div_self (ne_of_gt Grid.one_pos_rat),
    mul_one]

end Magnitude

/-! ## Closeness -/

/-- The factor by which one rounding shrinks a number at most. -/
def shrink : ℚ := 1 - 1 / 2 ^ 53

/-- Two numbers differ by no more than so many roundings. -/
structure Near (roundings : ℕ) (x y : ℚ) : Prop where
  below : x * shrink ^ roundings ≤ y
  above : y * shrink ^ roundings ≤ x

/-- It does not shrink a number to nothing. -/
theorem shrink_pos : 0 < shrink := by norm_num [shrink]

namespace Near

variable {k l : ℕ} {x y z a b c : ℚ}

/-- Closeness goes both ways. -/
theorem symm (near : Near k x y) : Near k y x := ⟨near.above, near.below⟩

/-- Roundings one after the other add up. -/
theorem trans (first : Near k x y) (second : Near l y z) : Near (k + l) x z := by
  have left : 0 ≤ shrink ^ k := (pow_pos shrink_pos k).le
  have right : 0 ≤ shrink ^ l := (pow_pos shrink_pos l).le
  constructor
  · calc
      x * shrink ^ (k + l) = x * shrink ^ k * shrink ^ l := by rw [pow_add, mul_assoc]
      _ ≤ y * shrink ^ l := mul_le_mul_of_nonneg_right first.below right
      _ ≤ z := second.below
  · calc
      z * shrink ^ (k + l) = z * shrink ^ l * shrink ^ k := by rw [pow_add, mul_left_comm, mul_comm, mul_assoc]
      _ ≤ y * shrink ^ k := mul_le_mul_of_nonneg_right second.above left
      _ ≤ x := first.above

/-- A common factor keeps numbers close. -/
theorem mul_right (near : Near k x y) (nonneg : 0 ≤ c) : Near k (x * c) (y * c) := by
  constructor
  · calc
      x * c * shrink ^ k = x * shrink ^ k * c := mul_right_comm _ _ _
      _ ≤ y * c := mul_le_mul_of_nonneg_right near.below nonneg
  · calc
      y * c * shrink ^ k = y * shrink ^ k * c := mul_right_comm _ _ _
      _ ≤ x * c := mul_le_mul_of_nonneg_right near.above nonneg

/-- Quotients of close numbers are close. -/
theorem div (first : Near k x y) (second : Near l a b) (left : 0 ≤ x) (right : 0 ≤ y)
    (divisor : 0 < a) (divisor' : 0 < b) : Near (k + l) (x / a) (y / b) := by
  have bound : ∀ {x y a b : ℚ}, x * shrink ^ k ≤ y → b * shrink ^ l ≤ a → 0 ≤ y → 0 < a → 0 < b →
      x / a * shrink ^ (k + l) ≤ y / b := by
    intro x y a b first second nonneg pos pos'
    rw [div_mul_eq_mul_div, div_le_div_iff₀ pos pos']
    calc
      x * shrink ^ (k + l) * b = x * shrink ^ k * (b * shrink ^ l) := by rw [pow_add]; ring
      _ ≤ y * a := mul_le_mul first second (mul_pos pos' (pow_pos shrink_pos l)).le nonneg
  exact ⟨bound first.below second.above right divisor divisor',
    bound first.above second.below left divisor' divisor⟩

/-- After five roundings the relative error is at most one part in `2 ^ 50`. -/
theorem abs_sub_le (near : Near 5 x y) (nonneg : 0 ≤ x) (nonneg' : 0 ≤ y) :
    |x - y| ≤ y / 2 ^ 50 := by
  have low : 1 - 1 / 2 ^ 50 ≤ shrink ^ 5 := by norm_num [shrink]
  have high : 1 ≤ shrink ^ 5 * (1 + 1 / 2 ^ 50) := by norm_num [shrink]
  rw [abs_sub_le_iff]
  constructor
  · have scaled : x ≤ y * (1 + 1 / 2 ^ 50) := by
      calc
        x = x * 1 := (mul_one x).symm
        _ ≤ x * (shrink ^ 5 * (1 + 1 / 2 ^ 50)) := mul_le_mul_of_nonneg_left high nonneg
        _ = x * shrink ^ 5 * (1 + 1 / 2 ^ 50) := (mul_assoc _ _ _).symm
        _ ≤ y * (1 + 1 / 2 ^ 50) := mul_le_mul_of_nonneg_right near.below (by positivity)
    linarith
  · have scaled : y * (1 - 1 / 2 ^ 50) ≤ x := by
      calc
        y * (1 - 1 / 2 ^ 50) ≤ y * shrink ^ 5 := mul_le_mul_of_nonneg_left low nonneg'
        _ ≤ x := near.above
    linarith

/-- After five roundings or fewer a number is not doubled. -/
theorem le_two_mul (near : Near k x y) (few : k ≤ 5) (nonneg : 0 ≤ x) : x ≤ 2 * y := by
  have half : 1 / 2 ≤ shrink ^ k := by
    calc
      (1 : ℚ) / 2 ≤ shrink ^ 5 := by norm_num [shrink]
      _ ≤ shrink ^ k := pow_le_pow_of_le_one shrink_pos.le (by norm_num [shrink]) few
  have scaled : x * (1 / 2) ≤ y := (mul_le_mul_of_nonneg_left half nonneg).trans near.below
  linarith

end Near

namespace Double

/-- A held number as a magnitude. -/
theorem exists_whole {n : ℕ} (held : Grid.Held n) :
    ∃ m : Magnitude, whole false n = .finite false m ∧ m.value = n := by
  refine ⟨⟨_, held.fits, held.below⟩, whole_of_held false held, ?_⟩
  rw [Magnitude.value, Nat.cast_mul, mul_div_cancel_right₀ _ (ne_of_gt Grid.one_pos_rat)]

/-- The number is the rational, which is not below zero, rounded once. -/
def Rounds (q : ℚ) (x : Double) : Prop :=
  ∃ num den : ℕ, 0 < den ∧ q = num / (den * Grid.one) ∧ x = ofRatio false num den

namespace Rounds

variable {q : ℚ} {x : Double}

/-- A ratio of counts is at most a magnitude when it is so as a rational. -/
theorem le_value_iff {num den : ℕ} (pos : 0 < den) (m : Magnitude) :
    (num : ℚ) / (den * Grid.one) ≤ m.value ↔ num ≤ den * m.count := by
  have divisor : (0 : ℚ) < den := Nat.cast_pos.2 pos
  rw [← div_div, Magnitude.value, div_le_div_iff_of_pos_right Grid.one_pos_rat, div_le_iff₀' divisor]
  exact_mod_cast Iff.rfl

/-- And at least a magnitude. -/
theorem value_le_iff {num den : ℕ} (pos : 0 < den) (m : Magnitude) :
    m.value ≤ (num : ℚ) / (den * Grid.one) ↔ den * m.count ≤ num := by
  have divisor : (0 : ℚ) < den := Nat.cast_pos.2 pos
  rw [← div_div, Magnitude.value, div_le_div_iff_of_pos_right Grid.one_pos_rat, le_div_iff₀' divisor]
  exact_mod_cast Iff.rfl

/-- A rational that a magnitude bounds has a finite number, which the magnitude bounds too. -/
theorem exists_le (rounds : Rounds q x) (top : Magnitude) (le : q ≤ top.value) :
    ∃ m, x = .finite false m ∧ m.value ≤ top.value := by
  obtain ⟨num, den, pos, rfl, rfl⟩ := rounds
  have within := Grid.nearest_le top.fits pos ((le_value_iff pos top).1 le)
  have below : Grid.nearest num den < Grid.bound := Nat.lt_of_le_of_lt within top.below
  refine ⟨⟨_, Grid.fits_nearest num den, below⟩, by simp only [ofRatio, dif_pos below], ?_⟩
  exact div_le_div_of_nonneg_right (Nat.cast_le.2 within) Grid.one_pos_rat.le

/-- A finite number does not fall below a magnitude that its rational reaches. -/
theorem ge {m : Magnitude} (rounds : Rounds q (.finite false m)) {least : Magnitude}
    (le : least.value ≤ q) : least.value ≤ m.value := by
  obtain ⟨num, den, pos, rfl, same⟩ := rounds
  have within := Grid.le_nearest least.fits pos ((value_le_iff pos least).1 le)
  unfold ofRatio at same
  split at same
  · cases same
    exact div_le_div_of_nonneg_right (Nat.cast_le.2 within) Grid.one_pos_rat.le
  · cases same

/-- A rational that is tiny has a finite number that is tiny. -/
theorem exists_le_tiny (rounds : Rounds q x) {k : ℕ} (few : k ≤ 200) (le : q ≤ 1 / 2 ^ k) :
    ∃ m, x = .finite false m ∧ m.value ≤ 1 / 2 ^ k := by
  obtain ⟨top, value⟩ := Magnitude.exists_value_eq (n := 1) (by decide) few
  rw [Nat.cast_one] at value
  rw [← value] at le ⊢
  exact rounds.exists_le top le

/-- A finite number that is not tiny comes from a rational that is not tiny. -/
theorem tiny_lt {m : Magnitude} (rounds : Rounds q (.finite false m)) {k : ℕ} (few : k ≤ 200)
    (lt : 1 / 2 ^ k < m.value) : 1 / 2 ^ k < q := by
  by_contra tiny
  obtain ⟨m', same, le⟩ := rounds.exists_le_tiny few (not_lt.1 tiny)
  cases same
  exact absurd lt (not_lt.2 le)

/-- A finite number that is not huge comes from a rational that is not huge. -/
theorem lt_huge {m : Magnitude} (rounds : Rounds q (.finite false m)) {k : ℕ} (few : k ≤ 200)
    (lt : m.value < 2 ^ k) : q < 2 ^ k := by
  obtain ⟨top, value⟩ := Magnitude.exists_value_eq_mul (n := 1) (by decide) few
  rw [Nat.cast_one, one_mul] at value
  rw [← value] at lt ⊢
  by_contra huge
  exact absurd lt (not_lt.2 (rounds.ge (not_lt.1 huge)))

/-- A magnitude is its own number. -/
theorem eq_of_value {m : Magnitude} (rounds : Rounds m.value x) : x = .finite false m := by
  obtain ⟨num, den, pos, same, rfl⟩ := rounds
  have upper := (le_value_iff pos m).1 same.ge
  have lower := (value_le_iff pos m).1 same.le
  rw [Nat.le_antisymm upper lower]
  exact ofRatio_of_fits false m.fits m.below pos

/-- A rational that is not tiny has all significant bits. -/
theorem normal_of_low {num den : ℕ} (pos : 0 < den)
    (low : 1 / 2 ^ 200 ≤ (num : ℚ) / (den * Grid.one)) : 2 ^ 52 ≤ num / den := by
  have divisor : (0 : ℚ) < den := Nat.cast_pos.2 pos
  have large : (2 : ℚ) ^ 252 ≤ Grid.one := by
    calc
      (2 : ℚ) ^ 252 = ((2 ^ 252 : ℕ) : ℚ) := (Nat.cast_pow 2 252).symm
      _ ≤ Grid.one := Nat.cast_le.2 (Nat.le_of_lt (Grid.pow_lt_one (by decide)))
  rw [div_le_div_iff₀ (by positivity) (mul_pos divisor Grid.one_pos_rat), one_mul] at low
  have power : (2 : ℚ) ^ 252 = 2 ^ 52 * 2 ^ 200 := pow_add 2 52 200
  have scaled : (2 ^ 52 * den : ℚ) * 2 ^ 200 ≤ num * 2 ^ 200 := by
    calc
      (2 ^ 52 * den : ℚ) * 2 ^ 200 = den * 2 ^ 252 := by rw [power]; ring
      _ ≤ (den : ℚ) * Grid.one := mul_le_mul_of_nonneg_left large divisor.le
      _ ≤ num * 2 ^ 200 := low
  have whole : (2 : ℚ) ^ 52 * den ≤ num := le_of_mul_le_mul_right scaled (by positivity)
  rw [Nat.le_div_iff_mul_le pos]
  exact_mod_cast whole

/-- Away from the ends of the range, one rounding leaves a number close. -/
theorem exists_near (rounds : Rounds q x) (low : 1 / 2 ^ 200 ≤ q) (high : q ≤ 2 ^ 200) :
    ∃ m, x = .finite false m ∧ Near 1 m.value q := by
  obtain ⟨top, power⟩ := Magnitude.exists_value_eq_mul (n := 1) (by decide) (Nat.le_refl 200)
  rw [Nat.cast_one, one_mul] at power
  obtain ⟨m, rfl, -⟩ := rounds.exists_le top (high.trans_eq power.symm)
  refine ⟨m, rfl, ?_⟩
  obtain ⟨num, den, pos, rfl, same⟩ := rounds
  have count := count_of_ofRatio same.symm
  obtain ⟨up, down⟩ := Grid.nearest_error pos (normal_of_low pos low)
  rw [← count] at up down
  have divisor : (0 : ℚ) < den := Nat.cast_pos.2 pos
  have nonneg : (0 : ℚ) ≤ num := Nat.cast_nonneg _
  have up' : (2 : ℚ) ^ 53 * (den * m.count) ≤ 2 ^ 53 * num + num := by exact_mod_cast up
  have down' : (2 : ℚ) ^ 53 * num ≤ 2 ^ 53 * (den * m.count) + num := by exact_mod_cast down
  rw [← div_div, Magnitude.value]
  constructor
  · rw [pow_one, div_mul_eq_mul_div, div_le_div_iff_of_pos_right Grid.one_pos_rat,
      le_div_iff₀' divisor, shrink]
    linarith
  · rw [pow_one, div_mul_eq_mul_div, div_le_div_iff_of_pos_right Grid.one_pos_rat,
      div_mul_eq_mul_div, div_le_iff₀' divisor, shrink]
    linarith

end Rounds

/-- A whole number is rounded once. -/
theorem rounds_whole (n : ℕ) : Rounds n (whole false n) := by
  refine ⟨n * Grid.one, 1, Nat.one_pos, ?_, rfl⟩
  rw [Nat.cast_mul, Nat.cast_one, one_mul, mul_div_cancel_right₀ _ (ne_of_gt Grid.one_pos_rat)]

/-- A product is rounded once. -/
theorem rounds_mul (a b : Magnitude) :
    Rounds (a.value * b.value) (.finite false a * .finite false b) := by
  refine ⟨a.count * b.count, Grid.one, Grid.one_pos, ?_, rfl⟩
  rw [Magnitude.value, Magnitude.value, div_mul_div_comm]
  push_cast
  rfl

/-- A quotient by a positive number is rounded once. -/
theorem rounds_div (a : Magnitude) {b : Magnitude} (pos : 0 < b.value) :
    Rounds (a.value / b.value) (.finite false a / .finite false b) := by
  have divisor : 0 < b.count := Magnitude.value_pos_iff.1 pos
  refine ⟨a.count * Grid.one, b.count, divisor, ?_, ?_⟩
  · rw [Magnitude.value, Magnitude.value, div_div_div_eq]
    push_cast
    ring
  · change div _ _ = _
    simp only [div, if_neg (Nat.ne_of_gt divisor), bne_self_eq_false]

end Double

end Vigil
