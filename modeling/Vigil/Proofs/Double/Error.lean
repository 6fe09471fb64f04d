import Mathlib.Tactic.Linarith
import Mathlib.Tactic.Ring
import Vigil.Proofs.Double.Rounding

/-!
# The error of rounding

A ratio is rounded by at most half of the spacing of the grid. From the first count on that has all
fifty-three significant bits, half of the spacing is at most one part in `2 ^ 53` of the ratio. So
a whole number that is held exactly is never reached from a ratio that is not that number, and a
ratio of whole numbers keeps its whole part, its next whole number, and whether it is whole at all.
-/

namespace Vigil

namespace Grid

/-- A quotient is rounded up by half of the divisor at most. -/
theorem two_mul_roundDiv_le (num den : Nat) :
    2 * (den * roundDiv num den) ≤ 2 * num + den := by
  have parts := Nat.div_add_mod num den
  unfold roundDiv
  split
  · omega
  · rename_i up
    rw [Nat.mul_add, Nat.mul_one]
    omega

/-- And it is rounded down by half of the divisor at most. -/
theorem two_mul_le_roundDiv (num : Nat) {den : Nat} (pos : 0 < den) :
    2 * num ≤ 2 * (den * roundDiv num den) + den := by
  have parts := Nat.div_add_mod num den
  have rest := Nat.mod_lt num pos
  unfold roundDiv
  split
  · rename_i down
    omega
  · rw [Nat.mul_add, Nat.mul_one]
    omega

/-- What is not rounded to nothing is at least one half. -/
theorem le_two_mul_of_roundDiv_ne_zero {num den : Nat} (some : roundDiv num den ≠ 0) :
    den ≤ 2 * num := by
  have up := two_mul_roundDiv_le num den
  have unit : den * 1 ≤ den * roundDiv num den :=
    Nat.mul_le_mul_left den (Nat.pos_of_ne_zero some)
  omega

/-- What is rounded below a whole number is not above it. -/
theorem le_mul_of_roundDiv_lt {num den top : Nat} (pos : 0 < den)
    (few : roundDiv num den < top) : num ≤ den * top := by
  have down := two_mul_le_roundDiv num pos
  have next : den * (roundDiv num den + 1) ≤ den * top := Nat.mul_le_mul_left den few
  rw [Nat.mul_add, Nat.mul_one] at next
  omega

/-- A factor of both parts of a ratio does not change how it is rounded. -/
theorem nearest_mul_mul_left {factor : Nat} (pos : 0 < factor) (num den : Nat) :
    nearest (factor * num) (factor * den) = nearest num den := by
  have scaled : ∀ d, roundDiv (factor * num) (factor * d) = roundDiv num d := by
    intro d
    have less : 2 * (factor * (num % d)) < factor * d ↔ 2 * (num % d) < d := by
      rw [Nat.mul_left_comm]
      exact Nat.mul_lt_mul_left pos
    have same : 2 * (factor * (num % d)) = factor * d ↔ 2 * (num % d) = d := by
      rw [Nat.mul_left_comm]
      exact Nat.mul_right_inj (Nat.ne_of_gt pos)
    simp only [roundDiv, Nat.mul_mod_mul_left, Nat.mul_div_mul_left _ _ pos, less, same]
  rw [nearest, nearest, Nat.mul_div_mul_left _ _ pos, Nat.mul_assoc, scaled]

/-- A larger ratio is not rounded to a lesser point. -/
theorem nearest_mono {num den num' den' : Nat} (pos : 0 < den) (pos' : 0 < den')
    (le : num * den' ≤ num' * den) : nearest num den ≤ nearest num' den' := by
  rw [← nearest_mul_mul_left pos' num den, ← nearest_mul_mul_left pos num' den',
    Nat.mul_comm den den', Nat.mul_comm den' num, Nat.mul_comm den num']
  exact nearest_mono_left (Nat.mul_pos pos' pos) le

/-- A count of a binade has the spacing of the binade. -/
theorem spacing_of_between {count k : Nat} (low : k = 0 ∨ 2 ^ 52 * Nat.pow 2 k ≤ count)
    (high : count < 2 ^ 53 * Nat.pow 2 k) : spacing count = Nat.pow 2 k := by
  by_cases zero : count = 0
  · rcases low with rfl | low
    · rw [zero]
      rfl
    · have := pow_pos k
      omega
  · have upper : count < 2 ^ (53 + k) := by
      rw [Nat.pow_add]
      exact high
    have binade : count.log2 < 53 + k := (Nat.log2_lt zero).2 upper
    rcases low with rfl | low
    · rw [spacing, show count.log2 - 52 = 0 by omega]
    · have lower : 2 ^ (52 + k) ≤ count := by
        rw [Nat.pow_add]
        exact low
      have start : 52 + k ≤ count.log2 := (Nat.le_log2 zero).2 lower
      rw [spacing, show count.log2 - 52 = k by omega]

/-- Low counts are spaced by one quantum. -/
theorem spacing_of_lt {count : Nat} (small : count < 2 ^ 52) : spacing count = 1 :=
  spacing_of_between (k := 0) (.inl rfl) (Nat.lt_trans small (by decide))

/-- A count with all significant bits is at least `2 ^ 52` spacings. -/
theorem mul_spacing_le {count : Nat} (normal : 2 ^ 52 ≤ count) : 2 ^ 52 * spacing count ≤ count := by
  have nonzero : count ≠ 0 := by omega
  rw [mul_spacing_eq ((Nat.le_log2 nonzero).2 normal)]
  exact Nat.log2_self_le nonzero

/-- A count with all significant bits is less than `2 ^ 53` spacings. -/
theorem lt_mul_spacing {count : Nat} (normal : 2 ^ 52 ≤ count) : count < 2 ^ 53 * spacing count := by
  have nonzero : count ≠ 0 := by omega
  have start := mul_spacing_eq ((Nat.le_log2 nonzero).2 normal)
  have next : count < 2 ^ count.log2 * 2 := Nat.lt_log2_self
  omega

/-- A ratio is rounded by at most half of the spacing of its binade, upwards or downwards. -/
theorem nearest_within (num : Nat) {den : Nat} (pos : 0 < den) :
    2 * (den * nearest num den) ≤ 2 * num + den * spacing (num / den) ∧
      2 * num ≤ 2 * (den * nearest num den) + den * spacing (num / den) := by
  have unit : 0 < den * spacing (num / den) := Nat.mul_pos pos (Nat.two_pow_pos _)
  have rounded : den * nearest num den =
      den * spacing (num / den) * roundDiv num (den * spacing (num / den)) := by
    rw [nearest]
    ring
  rw [rounded]
  exact ⟨two_mul_roundDiv_le num _, two_mul_le_roundDiv num unit⟩

/-- A ratio is rounded by at most one part in `2 ^ 53`, upwards or downwards, where its count has
all significant bits. -/
theorem nearest_error {num den : Nat} (pos : 0 < den) (normal : 2 ^ 52 ≤ num / den) :
    2 ^ 53 * (den * nearest num den) ≤ 2 ^ 53 * num + num ∧
      2 ^ 53 * num ≤ 2 ^ 53 * (den * nearest num den) + num := by
  obtain ⟨up, down⟩ := nearest_within num pos
  have step : 2 ^ 52 * (den * spacing (num / den)) ≤ num := by
    calc
      2 ^ 52 * (den * spacing (num / den)) = den * (2 ^ 52 * spacing (num / den)) := by ring
      _ ≤ den * (num / den) := Nat.mul_le_mul_left _ (mul_spacing_le normal)
      _ ≤ num := Nat.mul_div_le num den
  omega

/-- Any other ratio is rounded by half a quantum more than that at most. -/
theorem nearest_error_half (num : Nat) {den : Nat} (pos : 0 < den) :
    2 ^ 53 * (den * nearest num den) ≤ 2 ^ 53 * num + num + 2 ^ 52 * den ∧
      2 ^ 53 * num ≤ 2 ^ 53 * (den * nearest num den) + num + 2 ^ 52 * den := by
  rcases Nat.lt_or_ge (num / den) (2 ^ 52) with small | normal
  · obtain ⟨up, down⟩ := nearest_within num pos
    rw [spacing_of_lt small] at up down
    omega
  · obtain ⟨up, down⟩ := nearest_error pos normal
    omega

/-- A whole number of quanta is rounded by no half of a quantum, as the low ones are points. -/
theorem nearest_error_one (num : Nat) :
    2 ^ 53 * nearest num 1 ≤ 2 ^ 53 * num + num ∧
      2 ^ 53 * num ≤ 2 ^ 53 * nearest num 1 + num := by
  rcases Nat.lt_or_ge num (2 ^ 52) with small | normal
  · have fits : Fits num := by
      rw [Fits, spacing_of_lt small]
      exact Nat.one_dvd num
    have same := nearest_mul_of_fits fits Nat.one_pos
    rw [Nat.one_mul] at same
    omega
  · have error := nearest_error Nat.one_pos (normal.trans_eq (Nat.div_one num).symm)
    rwa [Nat.one_mul] at error

/-- It is at most one part in `2 ^ 53` of the point to which the ratio is rounded, too. -/
theorem nearest_error_self {num den : Nat} (pos : 0 < den) (normal : 2 ^ 52 ≤ num / den) :
    2 ^ 53 * (den * nearest num den) ≤ 2 ^ 53 * num + den * nearest num den ∧
      2 ^ 53 * num ≤ 2 ^ 53 * (den * nearest num den) + den * nearest num den := by
  obtain ⟨up, down⟩ := nearest_within num pos
  have reached : 2 ^ 52 * spacing (num / den) ≤ nearest num den :=
    le_nearest (fits_mul_spacing _) pos
      (Nat.mul_comm den _ ▸ (Nat.le_div_iff_mul_le pos).1 (mul_spacing_le normal))
  have step : 2 ^ 52 * (den * spacing (num / den)) ≤ den * nearest num den := by
    rw [Nat.mul_left_comm]
    exact Nat.mul_le_mul_left den reached
  omega

end Grid

end Vigil
