import Vigil.Proofs.Decimal.Numeral
import Vigil.Proofs.Double.Relative

/-!
# The number nearest to a decimal

The number of a decimal is its exact ratio, rounded once. Decimals far outside the range are decided
without scaling, and this makes no difference: they are too large for a finite number, or so small
that rounding leaves nothing of them.
-/

namespace Vigil

attribute [local irreducible] Grid.quantumBits

namespace Grid

/-- A power of ten is above the powers of two with three times its exponent. -/
theorem pow_two_le_pow_ten {k l : Nat} (le : k ≤ 3 * l) : Nat.pow 2 k ≤ Nat.pow 10 l := by
  calc
    Nat.pow 2 k ≤ Nat.pow 2 (3 * l) := Nat.pow_le_pow_right (by decide) le
    _ = Nat.pow 8 l := Nat.pow_mul 2 3 l
    _ ≤ Nat.pow 10 l := Nat.pow_le_pow_left (by decide) l

/-- A ratio below one half of a quantum is rounded to nothing. -/
theorem nearest_eq_zero {num den : Nat} (tiny : 2 * num < den) : nearest num den = 0 := by
  have none : num / den = 0 := Nat.div_eq_of_lt (by omega)
  have rest : num % den = num := Nat.mod_eq_of_lt (by omega)
  have unit : spacing 0 = 1 := by decide
  rw [nearest, none, unit, Nat.mul_one, Nat.mul_one, roundDiv, none, rest, if_pos (.inl tiny)]

/-- So it is with a decimal that has hundreds of zeros after its point. -/
theorem nearest_eq_zero_of_pow {digits length places : Nat} (short : digits < 10 ^ length)
    (far : length + 400 < places) : nearest (digits * one) (Nat.pow 10 places) = 0 := by
  have twice : 2 * one ≤ Nat.pow 10 (places - length) := by
    have double : 2 * one = Nat.pow 2 (1 + quantumBits) := pow_mul_pow 1 quantumBits
    have bits : quantumBits = 1074 := by
      unfold quantumBits
      rfl
    rw [double]
    exact pow_two_le_pow_ten (by omega)
  apply nearest_eq_zero
  calc
    2 * (digits * one) = digits * (2 * one) := Nat.mul_left_comm 2 digits one
    _ < Nat.pow 10 length * (2 * one) :=
      Nat.mul_lt_mul_of_pos_right short (Nat.mul_pos (by decide) one_pos)
    _ ≤ Nat.pow 10 length * Nat.pow 10 (places - length) := Nat.mul_le_mul_left _ twice
    _ = Nat.pow 10 (length + (places - length)) := (Nat.pow_add 10 length (places - length)).symm
    _ = Nat.pow 10 places := by rw [Nat.add_sub_cancel' (by omega)]

/-- A number with hundreds of digits is too large. -/
theorem bound_le_nearest {n power : Nat} (pos : 0 < n) (far : 400 < power) :
    bound ≤ nearest (n * Nat.pow 10 power * one) 1 := by
  have fits : Fits bound := by
    unfold bound
    exact fits_pow _
  have top : topBits ≤ 3 * power := by
    unfold topBits
    omega
  apply le_nearest fits Nat.one_pos
  calc
    1 * bound = bound := Nat.one_mul bound
    _ = Nat.pow 2 topBits * one := by
      unfold bound
      exact (pow_mul_one topBits).symm
    _ ≤ Nat.pow 10 power * one := Nat.mul_le_mul_right _ (pow_two_le_pow_ten top)
    _ ≤ n * Nat.pow 10 power * one := Nat.mul_le_mul_right _ (Nat.le_mul_of_pos_left _ pos)

end Grid

namespace Decimal

/-- The rational number that a decimal is. -/
def value (d : Decimal) : ℚ := d.digits * 10 ^ d.exponent

/-- A decimal has no sign. -/
theorem value_nonneg (d : Decimal) : 0 ≤ d.value :=
  mul_nonneg (Nat.cast_nonneg _) (zpow_nonneg (by norm_num) _)

/-- A ratio of a decimal has a divisor. -/
theorem ratio_pos (d : Decimal) : 0 < d.ratio.2 := by
  unfold ratio
  split
  · exact Nat.one_pos
  · exact Nat.pow_pos (by decide)

/-- The ratio of a decimal is its value. -/
theorem value_eq_ratio (d : Decimal) : d.value = d.ratio.1 / (d.ratio.2 * Grid.one) := by
  have one := ne_of_gt Grid.one_pos_rat
  have cast : ∀ k : ℕ, ((Nat.pow 10 k : ℕ) : ℚ) = 10 ^ k := Nat.cast_pow 10
  unfold value ratio
  split
  · rename_i whole
    have power : (10 : ℚ) ^ d.exponent = 10 ^ d.exponent.toNat := by
      rw [← zpow_natCast, Int.toNat_of_nonneg whole]
    rw [power, Nat.cast_mul, Nat.cast_mul, cast, Nat.cast_one, one_mul, mul_div_cancel_right₀ _ one]
  · rename_i below
    have power : (10 : ℚ) ^ d.exponent = 1 / 10 ^ (-d.exponent).toNat := by
      rw [← zpow_natCast, Int.toNat_of_nonneg (by omega), zpow_neg, one_div, inv_inv]
    rw [power, Nat.cast_mul, cast, mul_div_mul_right _ _ one, mul_one_div]

end Decimal

namespace Double

/-- The number of a decimal is its ratio, rounded once, however large or small it is. -/
theorem ofDecimal_eq_ofRatio (negative : Bool) (d : Decimal) :
    ofDecimal negative d = ofRatio negative d.ratio.1 d.ratio.2 := by
  have zero : ∀ {num den : ℕ}, Grid.nearest num den = 0 →
      .finite negative .zero = ofRatio negative num den := by
    intro num den none
    simp only [ofRatio, none, dif_pos Grid.bound_pos]
    rfl
  unfold ofDecimal
  split
  · rename_i none
    apply zero
    have least : Grid.nearest d.ratio.1 d.ratio.2 ≤ 0 := by
      apply Grid.nearest_le Grid.fits_zero d.ratio_pos
      unfold Decimal.ratio
      split <;> simp [none]
    omega
  · rename_i some
    split
    · rename_i far
      have whole : (0 : ℤ) ≤ d.exponent := by omega
      have many : 400 < d.exponent.toNat := by omega
      have large := Grid.bound_le_nearest (Nat.pos_of_ne_zero some) many
      simp only [Decimal.ratio, if_pos whole, ofRatio, dif_neg (Nat.not_lt.2 large)]
    · split
      · rename_i far
        have below : ¬(0 : ℤ) ≤ d.exponent := by omega
        apply zero
        simp only [Decimal.ratio, if_neg below]
        exact Grid.nearest_eq_zero_of_pow (Decimal.lt_pow_length_numeral d.digits) (by omega)
      · rfl

/-- The number of a decimal is its value, rounded once. -/
theorem rounds_ofDecimal (d : Decimal) : Rounds d.value (ofDecimal false d) :=
  ⟨d.ratio.1, d.ratio.2, d.ratio_pos, d.value_eq_ratio, ofDecimal_eq_ofRatio false d⟩

end Double

end Vigil
