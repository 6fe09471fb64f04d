import Mathlib.Algebra.Group.Nat.Defs
import Mathlib.Data.Nat.Log
import Vigil.Decimal.Basic

/-!
# Rounding stays within bounds

A ratio is rounded neither above a point of the grid that bounds it from above, nor below one that
bounds it from below. So whole numbers of 64 bits are finite, and a finite number that is divided by
one or more stays finite.
-/

namespace Vigil

namespace Grid

/-- A ratio is not rounded above a whole number that bounds it. -/
theorem roundDiv_le_of_le_mul {num den top : Nat} (pos : 0 < den) (within : num ≤ den * top) :
    roundDiv num den ≤ top := by
  have quotient : num / den ≤ top := Nat.div_le_of_le_mul within
  rcases Nat.lt_or_eq_of_le quotient with below | meets
  · exact Nat.le_trans (roundDiv_le num den) below
  · have whole : num = den * top := by
      refine Nat.le_antisymm within ?_
      rw [← meets]
      exact Nat.mul_div_le num den
    rw [whole, roundDiv_mul_left top den pos]

/-- A ratio is not rounded below its whole part. -/
theorem div_le_roundDiv (num den : Nat) : num / den ≤ roundDiv num den := by
  unfold roundDiv
  split <;> omega

/-- Powers of two are multiplied by adding their exponents. -/
theorem pow_mul_pow (k l : Nat) : Nat.pow 2 k * Nat.pow 2 l = Nat.pow 2 (k + l) :=
  (Nat.pow_add 2 k l).symm

/-- A power of two in quanta is a power of two. -/
theorem pow_mul_one (k : Nat) : Nat.pow 2 k * one = Nat.pow 2 (k + quantumBits) := by
  unfold one
  exact pow_mul_pow k quantumBits

/-- A power of two that is not one is twice the power before it. -/
theorem two_mul_pow_pred {k : Nat} (pos : 0 < k) : 2 * Nat.pow 2 (k - 1) = Nat.pow 2 k := by
  calc
    2 * Nat.pow 2 (k - 1) = Nat.pow 2 (1 + (k - 1)) := pow_mul_pow 1 (k - 1)
    _ = Nat.pow 2 k := by rw [Nat.add_sub_cancel' pos]

/-- Powers of two grow with their exponents. -/
theorem pow_lt_pow {k l : Nat} (lt : k < l) : Nat.pow 2 k < Nat.pow 2 l :=
  Nat.pow_lt_pow_right (by decide) lt

/-- Up to the number of quanta in one, powers of two are quanta. -/
theorem pow_lt_one {k : Nat} (lt : k < 1074) : Nat.pow 2 k < one := by
  unfold one
  exact pow_lt_pow lt

/-- A lower power of two divides a higher one. -/
theorem pow_dvd_pow {k l : Nat} (le : k ≤ l) : Nat.pow 2 k ∣ Nat.pow 2 l := Nat.pow_dvd_pow 2 le

/-- Powers of two fit. -/
theorem fits_pow (k : Nat) : Fits (Nat.pow 2 k) := by
  simpa only [Nat.one_mul] using fits_mul_two_pow (n := 1) k (by decide)

/-- One fits. -/
theorem fits_one : Fits one := by
  unfold one
  exact fits_pow quantumBits

/-- Larger counts lie in the same binade or in a higher one. -/
theorem log2_mono {count larger : Nat} (le : count ≤ larger) : count.log2 ≤ larger.log2 := by
  rw [Nat.log2_eq_log_two, Nat.log2_eq_log_two]
  exact Nat.log_mono_right le

/-- The grid is coarser where the counts are larger. -/
theorem spacing_dvd_spacing {count larger : Nat} (le : count ≤ larger) :
    spacing count ∣ spacing larger :=
  Nat.pow_dvd_pow 2 (Nat.sub_le_sub_right (log2_mono le) 52)

/-- A ratio is not rounded above a point of the grid that bounds it. -/
theorem nearest_le {num den count : Nat} (fits : Fits count) (pos : 0 < den)
    (within : num ≤ den * count) : nearest num den ≤ count := by
  have below : num / den ≤ count := Nat.div_le_of_le_mul within
  obtain ⟨steps, rfl⟩ : spacing (num / den) ∣ count :=
    Nat.dvd_trans (spacing_dvd_spacing below) fits
  have unit : 0 < den * spacing (num / den) := Nat.mul_pos pos (Nat.two_pow_pos _)
  have rounded : roundDiv num (den * spacing (num / den)) ≤ steps :=
    roundDiv_le_of_le_mul unit (by rwa [Nat.mul_assoc])
  rw [nearest, Nat.mul_comm (spacing (num / den)) steps]
  exact Nat.mul_le_mul_right _ rounded

/-- A count with a higher exponent is at least `2 ^ 52` spacings. -/
theorem mul_spacing_eq {count : Nat} (normal : 52 ≤ count.log2) :
    2 ^ 52 * spacing count = 2 ^ count.log2 := by
  calc
    2 ^ 52 * spacing count = 2 ^ (52 + (count.log2 - 52)) := (Nat.pow_add 2 52 _).symm
    _ = 2 ^ count.log2 := by rw [Nat.add_sub_cancel' normal]

/-- Two counts have one spacing, or the larger one lies in a higher binade, whose first point is
between them. -/
theorem spacing_eq_or_between {count larger : Nat} (le : count ≤ larger) :
    spacing count = spacing larger ∨
      count < 2 ^ 52 * spacing larger ∧ 2 ^ 52 * spacing larger ≤ larger := by
  by_cases same : count.log2 - 52 = larger.log2 - 52
  · exact .inl (by rw [spacing, spacing, same])
  · have logs := log2_mono le
    have nonzero : larger ≠ 0 := by
      rintro rfl
      exact same (by rw [Nat.le_zero.1 le])
    rw [mul_spacing_eq (by omega)]
    exact .inr ⟨Nat.lt_of_lt_of_le Nat.lt_log2_self (Nat.pow_le_pow_right (by decide) (by omega)),
      Nat.log2_self_le nonzero⟩

/-- A point of the grid is not above the last multiple of the spacing before a number that it does
not exceed. -/
theorem le_floor {count quotient : Nat} (fits : Fits count) (above : count ≤ quotient) :
    count ≤ quotient / spacing quotient * spacing quotient := by
  rcases spacing_eq_or_between above with same | ⟨under, reached⟩
  · rw [← same]
    calc
      count = count / spacing count * spacing count := (Nat.div_mul_cancel fits).symm
      _ ≤ quotient / spacing count * spacing count :=
        Nat.mul_le_mul_right _ (Nat.div_le_div_right above)
  · calc
      count ≤ 2 ^ 52 * spacing quotient := Nat.le_of_lt under
      _ ≤ quotient / spacing quotient * spacing quotient :=
        Nat.mul_le_mul_right _ ((Nat.le_div_iff_mul_le (Nat.two_pow_pos _)).2 reached)

/-- Nor is a ratio rounded below a point of the grid that bounds it from below. -/
theorem le_nearest {num den count : Nat} (fits : Fits count) (pos : 0 < den)
    (within : den * count ≤ num) : count ≤ nearest num den := by
  have above : count ≤ num / den := (Nat.le_div_iff_mul_le pos).2 (Nat.mul_comm den count ▸ within)
  calc
    count ≤ num / den / spacing (num / den) * spacing (num / den) := le_floor fits above
    _ ≤ nearest num den := by
      rw [nearest, Nat.div_div_eq_div_mul]
      exact Nat.mul_le_mul_right _ (div_le_roundDiv _ _)

/-- A larger numerator is not rounded to a lesser quotient. -/
theorem roundDiv_mono {num larger : Nat} (den : Nat) (le : num ≤ larger) :
    roundDiv num den ≤ roundDiv larger den := by
  have quotients : num / den ≤ larger / den := Nat.div_le_div_right le
  rcases Nat.lt_or_eq_of_le quotients with less | same
  · calc
      roundDiv num den ≤ num / den + 1 := roundDiv_le num den
      _ ≤ larger / den := less
      _ ≤ roundDiv larger den := div_le_roundDiv larger den
  · have parts := Nat.div_add_mod num den
    have parts' := Nat.div_add_mod larger den
    rw [same] at parts
    unfold roundDiv
    split <;> split <;> omega

/-- The first point of a binade fits. -/
theorem fits_mul_spacing (count : Nat) : Fits (2 ^ 52 * spacing count) :=
  fits_mul_two_pow _ (by decide)

/-- A larger numerator is not rounded to a lesser point. -/
theorem nearest_mono_left {num larger den : Nat} (pos : 0 < den) (le : num ≤ larger) :
    nearest num den ≤ nearest larger den := by
  rcases spacing_eq_or_between (Nat.div_le_div_right (c := den) le) with same | ⟨under, reached⟩
  · unfold nearest
    rw [same]
    exact Nat.mul_le_mul_right _ (roundDiv_mono _ le)
  · calc
      nearest num den ≤ 2 ^ 52 * spacing (larger / den) :=
        nearest_le (fits_mul_spacing _) pos
          (Nat.le_of_lt (Nat.mul_comm den _ ▸ (Nat.div_lt_iff_lt_mul pos).1 under))
      _ ≤ nearest larger den :=
        le_nearest (fits_mul_spacing _) pos
          (Nat.mul_comm den _ ▸ (Nat.le_div_iff_mul_le pos).1 reached)

end Grid

namespace Double

/-- A ratio that is not above a finite magnitude has a finite number. -/
theorem isFinite_ofRatio {num den : Nat} (negative : Bool) (top : Magnitude) (pos : 0 < den)
    (within : num ≤ den * top.count) : (ofRatio negative num den).isFinite = true := by
  have below : Grid.nearest num den < Grid.bound :=
    Nat.lt_of_le_of_lt (Grid.nearest_le top.fits pos within) top.below
  simp [ofRatio, below, isFinite]

/-- A ratio whose number is finite is rounded to that magnitude. -/
theorem count_of_ofRatio {negative sign : Bool} {num den : Nat} {m : Magnitude}
    (rounded : ofRatio negative num den = .finite sign m) : m.count = Grid.nearest num den := by
  unfold ofRatio at rounded
  split at rounded
  · cases rounded
    rfl
  · cases rounded

/-- The magnitude of the first whole number that needs more than 64 bits. -/
def wordTop : Magnitude where
  count := Nat.pow 2 64 * Grid.one
  fits := by
    unfold Grid.one
    rw [Grid.pow_mul_pow]
    exact Grid.fits_pow _
  below := by
    unfold Grid.one Grid.bound
    rw [Grid.pow_mul_pow]
    exact Grid.pow_lt_pow (Nat.add_lt_add_right (by decide) _)

/-- A whole number of 64 bits, in quanta, is not above that magnitude. -/
theorem mul_one_le_wordTop {n : Nat} (word : n ≤ 2 ^ 64) : n * Grid.one ≤ 1 * wordTop.count := by
  rw [Nat.one_mul]
  exact Nat.mul_le_mul_right _ word

/-- Natural numbers of 64 bits are finite. -/
theorem isFinite_ofNat {n : Nat} (word : n ≤ 2 ^ 64) : (ofNat n).isFinite = true :=
  isFinite_ofRatio false wordTop Nat.one_pos (mul_one_le_wordTop word)

/-- Integers of 64 bits are finite. -/
theorem isFinite_ofInt {n : Int} (word : n.natAbs ≤ 2 ^ 64) : (ofInt n).isFinite = true :=
  isFinite_ofRatio (n < 0) wordTop Nat.one_pos (mul_one_le_wordTop word)

/-- The sign does not decide whether a number is finite. -/
@[simp] theorem isFinite_neg (x : Double) : (-x).isFinite = x.isFinite := by
  cases x <;> rfl

/-- A finite number is a sign and a magnitude. -/
theorem exists_of_isFinite {x : Double} (finite : x.isFinite = true) :
    ∃ negative m, x = .finite negative m := by
  cases x with
  | nan => cases finite
  | infinite negative => cases finite
  | finite negative m => exact ⟨negative, m, rfl⟩

/-- A number that equals zero is finite. -/
theorem isFinite_of_same_zero {x : Double} (zero : x.same 0 = true) : x.isFinite = true := by
  cases x with
  | nan => exact absurd zero (by decide +kernel)
  | infinite negative => cases negative <;> exact absurd zero (by decide +kernel)
  | finite negative magnitude => rfl

/-- The number is not below one; it may be infinite. -/
def isUnitOrMore : Double → Bool
  | .nan => false
  | .infinite negative => !negative
  | .finite negative magnitude => !negative && decide (Grid.one ≤ magnitude.count)

/-- A finite number divided by one or more is finite. -/
theorem isFinite_div {x y : Double} (finite : x.isFinite = true)
    (large : y.isUnitOrMore = true) : (x / y).isFinite = true := by
  cases x with
  | nan => cases finite
  | infinite negative => cases finite
  | finite negative magnitude =>
    cases y with
    | nan => cases large
    | infinite sign => rfl
    | finite sign divisor =>
      have unit : Grid.one ≤ divisor.count := by
        simp only [isUnitOrMore, Bool.and_eq_true, decide_eq_true_eq] at large
        exact large.2
      have pos : 0 < divisor.count := Nat.lt_of_lt_of_le Grid.one_pos unit
      have divided : Double.finite negative magnitude / Double.finite sign divisor =
          ofRatio (negative != sign) (magnitude.count * Grid.one) divisor.count := by
        change div _ _ = _
        simp only [div, if_neg (Nat.ne_of_gt pos)]
      rw [divided]
      refine isFinite_ofRatio _ magnitude pos ?_
      rw [Nat.mul_comm]
      exact Nat.mul_le_mul_right _ unit

/-- And it is finite only then. -/
theorem isFinite_div_iff {x y : Double} (large : y.isUnitOrMore = true) :
    (x / y).isFinite = true ↔ x.isFinite = true := by
  refine ⟨fun finite => ?_, fun finite => isFinite_div finite large⟩
  cases x with
  | nan => cases y <;> cases finite
  | infinite negative => cases y <;> cases finite
  | finite negative m => rfl

/-- A sum is finite only if both numbers are. -/
theorem isFinite_of_add {x y : Double} (finite : (x + y).isFinite = true) :
    x.isFinite = true ∧ y.isFinite = true := by
  change (add x y).isFinite = true at finite
  cases x with
  | nan => cases y <;> cases finite
  | infinite negative =>
    cases y with
    | nan => cases finite
    | infinite sign =>
      simp only [add] at finite
      split at finite <;> cases finite
    | finite sign n => cases finite
  | finite negative m =>
    cases y with
    | nan => cases finite
    | infinite sign => cases finite
    | finite sign n => exact ⟨rfl, rfl⟩

/-- A ratio that is not below one has a number that is not. -/
theorem isUnitOrMore_ofRatio {num den : Nat} (pos : 0 < den) (within : den * Grid.one ≤ num) :
    (ofRatio false num den).isUnitOrMore = true := by
  have rounded : Grid.one ≤ Grid.nearest num den := Grid.le_nearest Grid.fits_one pos within
  unfold ofRatio
  split
  · simpa [isUnitOrMore] using rounded
  · rfl

/-- A power of ten is not below one. -/
theorem isUnitOrMore_power (power : Nat) : (ofDecimal false ⟨1, power⟩).isUnitOrMore = true := by
  unfold ofDecimal
  split
  · contradiction
  · split
    · rfl
    · split
      · rename_i small
        dsimp only at small
        omega
      · have whole : (0 : Int) ≤ power := Int.natCast_nonneg power
        have positive : 1 ≤ 1 * Nat.pow 10 power := by
          rw [Nat.one_mul]
          exact Nat.pow_pos (by decide)
        simp only [Decimal.ratio, whole, if_true, Int.toNat_natCast]
        exact isUnitOrMore_ofRatio Nat.one_pos (Nat.mul_le_mul_right _ positive)

end Double

end Vigil
