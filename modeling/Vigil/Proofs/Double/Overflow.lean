import Vigil.Proofs.Double.Relative

/-!
# Overflow

A rational is rounded to infinity from the middle between the greatest finite number and the first
power of two above it on: the middle itself is a tie, and the power of two is even. So a number is
finite exactly when the rational it comes from is below this middle.
-/

namespace Vigil

attribute [local irreducible] Grid.quantumBits

namespace Grid

/-- Half of the spacing of the highest binade, in quanta. -/
def half : Nat := Nat.pow 2 (970 + quantumBits)

/-- The least count of quanta, as a rational one, that is rounded out of the range. -/
def limit : Nat := (2 ^ 54 - 1) * half

/-- Half of a spacing is not nothing. -/
theorem half_pos : 0 < half := by
  unfold half
  exact pow_pos _

/-- The bound in halves of the highest spacing. -/
theorem bound_eq_mul_half : bound = 2 ^ 54 * half := by
  unfold bound half topBits
  generalize quantumBits = bits
  have split : 1024 + bits = 54 + (970 + bits) := by omega
  rw [split]
  exact Nat.pow_add 2 54 (970 + bits)

/-- The least point of the highest binade in the same halves. -/
theorem pow_eq_mul_half : Nat.pow 2 (1023 + quantumBits) = 2 ^ 53 * half := by
  unfold half
  generalize quantumBits = bits
  have split : 1023 + bits = 53 + (970 + bits) := by omega
  rw [split]
  exact Nat.pow_add 2 53 (970 + bits)

/-- The highest spacing is a power of two. -/
theorem two_mul_half : 2 * half = Nat.pow 2 (971 + quantumBits) := by
  unfold half
  generalize quantumBits = bits
  have split : 971 + bits = 1 + (970 + bits) := by omega
  rw [split]
  exact (Nat.pow_add 2 1 (970 + bits)).symm

/-- In the highest binade the spacing is two halves. -/
theorem spacing_of_highest {count : Nat} (least : 2 ^ 53 * half ≤ count)
    (below : count < 2 ^ 54 * half) : spacing count = 2 * half := by
  rw [two_mul_half]
  apply spacing_of_between <;> rw [← two_mul_half] <;> omega

/-- A ratio is rounded below an even number when it is less than one half below: a tie goes up. -/
theorem roundDiv_lt_succ_iff {num den odd : Nat} (pos : 0 < den) (parity : odd % 2 = 1) :
    roundDiv num den < odd + 1 ↔ 2 * num < den * (2 * odd + 1) := by
  have parts := Nat.div_add_mod num den
  have rest := Nat.mod_lt num pos
  have upper := roundDiv_le num den
  have lower := div_le_roundDiv num den
  rcases Nat.lt_trichotomy (num / den) odd with less | same | more
  · have next : 2 * num < den * (2 * odd + 1) := by
      calc
        2 * num < 2 * (den * (num / den) + den) := by omega
        _ = den * (2 * (num / den + 1)) := by ring
        _ ≤ den * (2 * odd + 1) := Nat.mul_le_mul_left den (by omega)
    exact ⟨fun _ => next, fun _ => by omega⟩
  · have split : den * (2 * odd + 1) = 2 * (den * (num / den)) + den := by
      rw [same]
      ring
    rw [split, roundDiv]
    split <;> omega
  · have past : den * (2 * odd + 1) ≤ 2 * num := by
      calc
        den * (2 * odd + 1) ≤ den * (2 * (num / den)) := Nat.mul_le_mul_left den (by omega)
        _ = 2 * (den * (num / den)) := Nat.mul_left_comm den 2 _
        _ ≤ 2 * num := by omega
    exact ⟨fun _ => by omega, fun _ => by omega⟩

/-- A ratio is rounded into the range exactly when it is below the limit. -/
theorem nearest_lt_bound_iff {num den : Nat} (pos : 0 < den) :
    nearest num den < bound ↔ num < den * limit := by
  have middle : 2 ^ 53 * half ≤ limit := Nat.mul_le_mul_right half (by decide)
  have under : limit ≤ 2 ^ 54 * half := Nat.mul_le_mul_right half (by decide)
  rw [bound_eq_mul_half]
  rcases Nat.lt_or_ge (num / den) (2 ^ 53 * half) with low | high
  · have fits : Fits (2 ^ 53 * half) := by
      rw [← pow_eq_mul_half]
      exact fits_pow _
    have within : num < den * (2 ^ 53 * half) := by
      rw [Nat.mul_comm]
      exact (Nat.div_lt_iff_lt_mul pos).1 low
    have rounded := nearest_le fits pos (Nat.le_of_lt within)
    have inside : 2 ^ 53 * half < 2 ^ 54 * half := Nat.mul_lt_mul_of_pos_right (by decide) half_pos
    exact ⟨fun _ => Nat.lt_of_lt_of_le within (Nat.mul_le_mul_left den middle),
      fun _ => Nat.lt_of_le_of_lt rounded inside⟩
  · rcases Nat.lt_or_ge (num / den) (2 ^ 54 * half) with below | above
    · have unit : 0 < 2 * half := Nat.mul_pos (by decide) half_pos
      have top : 2 ^ 54 * half = (2 ^ 53 - 1 + 1) * (2 * half) := by ring
      have scaled : 2 * num < den * (2 * half) * (2 * (2 ^ 53 - 1) + 1) ↔ num < den * limit := by
        have double : den * (2 * half) * (2 * (2 ^ 53 - 1) + 1) = 2 * (den * limit) := by
          rw [limit]
          ring
        rw [double]
        exact Nat.mul_lt_mul_left (by decide)
      rw [nearest, spacing_of_highest high below, top, Nat.mul_lt_mul_right unit,
        roundDiv_lt_succ_iff (Nat.mul_pos pos unit) (by decide), scaled]
    · have fits : Fits (2 ^ 54 * half) := by
        rw [← bound_eq_mul_half]
        unfold bound
        exact fits_pow _
      have outside : den * (2 ^ 54 * half) ≤ num := by
        rw [Nat.mul_comm]
        exact (Nat.le_div_iff_mul_le pos).1 above
      have rounded := le_nearest fits pos outside
      exact ⟨fun inside => absurd inside (Nat.not_lt.2 rounded), fun inside => absurd inside
        (Nat.not_lt.2 (Nat.le_trans (Nat.mul_le_mul_left den under) outside))⟩

end Grid

namespace Double

/-- The least rational that is rounded out of the range: the middle between the greatest finite
number and `2 ^ 1024`. -/
def overflow : ℚ := (2 ^ 54 - 1) * 2 ^ 970

/-- In quanta it is the limit of counts. -/
theorem overflow_eq_limit : overflow = Grid.limit / Grid.one := by
  obtain ⟨bits, named⟩ : ∃ bits, bits = 970 := ⟨_, rfl⟩
  have half : Grid.half = Nat.pow 2 bits * Grid.one := by
    unfold Grid.half
    rw [← named]
    exact (Grid.pow_mul_one bits).symm
  have power : ((Nat.pow 2 bits : ℕ) : ℚ) = 2 ^ bits := Nat.cast_pow 2 bits
  have odd : ((2 ^ 54 - 1 : ℕ) : ℚ) = 2 ^ 54 - 1 := by norm_num
  rw [overflow, ← named, Grid.limit, half, Nat.cast_mul, Nat.cast_mul, power, odd, ← mul_assoc,
    mul_div_cancel_right₀ _ (ne_of_gt Grid.one_pos_rat)]

/-- A rational that is rounded has a finite number exactly when it is below this. -/
theorem Rounds.isFinite_iff {q : ℚ} {x : Double} (rounds : Rounds q x) :
    x.isFinite = true ↔ q < overflow := by
  obtain ⟨num, den, pos, rfl, rfl⟩ := rounds
  have divisor : (0 : ℚ) < den := Nat.cast_pos.2 pos
  have finite : (ofRatio false num den).isFinite = true ↔ Grid.nearest num den < Grid.bound := by
    unfold ofRatio
    split <;> simp_all [isFinite]
  rw [finite, Grid.nearest_lt_bound_iff pos, overflow_eq_limit, ← div_div,
    div_lt_div_iff_of_pos_right Grid.one_pos_rat, div_lt_iff₀' divisor]
  exact_mod_cast Iff.rfl

end Double

end Vigil
