/-!
# The grid of binary64 magnitudes

Every finite binary64 magnitude is a whole number of quanta, where one quantum
is `2 ^ -1074`. A count of quanta is on the grid when it has at most fifty-three
significant bits and lies below the overflow bound. Rounding sends any ratio of
counts to the nearest point of the grid, a tie going to the even point, and the
main statement is that rounding always lands on the grid.
-/

namespace Vigil

/-- A quotient rounded to a whole number, a half going to the even neighbour. -/
def roundDiv (num den : Nat) : Nat :=
  if 2 * (num % den) < den ∨ (2 * (num % den) = den ∧ num / den % 2 = 0) then num / den
  else num / den + 1

namespace Grid

/-- One quantum is the number `2 ^ -quantumBits`. -/
def quantumBits : Nat := 1074

/-- The number of quanta that make one. -/
def one : Nat := Nat.pow 2 quantumBits

/-- The overflow bound is the number `2 ^ topBits`. -/
def topBits : Nat := 1024

/-- The least count of quanta that is too large for a finite magnitude. -/
def bound : Nat := Nat.pow 2 (topBits + quantumBits)

/-- A power of two is positive. -/
theorem pow_pos (k : Nat) : 0 < Nat.pow 2 k := Nat.two_pow_pos k

/-- One is a positive count. -/
theorem one_pos : 0 < one := by
  unfold one
  exact pow_pos quantumBits

/-- The bound is a positive count. -/
theorem bound_pos : 0 < bound := by
  unfold bound
  exact pow_pos (topBits + quantumBits)

/-- The distance between neighbouring grid points in the binade of a count. -/
def spacing (count : Nat) : Nat := Nat.pow 2 (count.log2 - 52)

/-- A count fits when it has at most fifty-three significant bits. -/
def Fits (count : Nat) : Prop := spacing count ∣ count

instance (count : Nat) : Decidable (Fits count) := inferInstanceAs (Decidable (_ ∣ _))

/-- The grid point nearest to the ratio `num / den` of counts, ties to even. -/
def nearest (num den : Nat) : Nat :=
  roundDiv num (den * spacing (num / den)) * spacing (num / den)

/-- Rounding never leaves the neighbours of the truncated quotient. -/
theorem roundDiv_le (num den : Nat) : roundDiv num den ≤ num / den + 1 := by
  unfold roundDiv
  split <;> omega

/-- A whole quotient is not changed by rounding. -/
theorem roundDiv_mul_left (n den : Nat) (h : 0 < den) : roundDiv (den * n) den = n := by
  unfold roundDiv
  rw [Nat.mul_mod_right, Nat.mul_div_cancel_left n h]
  simp [h]

/-- Zero fits. -/
theorem fits_zero : Fits 0 := Nat.dvd_zero _

/-- A short significand shifted left fits. -/
theorem fits_mul_two_pow {n : Nat} (k : Nat) (h : n ≤ 9007199254740992) :
    Fits (n * Nat.pow 2 k) := by
  replace h : n ≤ 2 ^ 53 := h
  change 2 ^ ((n * 2 ^ k).log2 - 52) ∣ n * 2 ^ k
  by_cases zero : n = 0
  · simp [zero]
  have pos : n * 2 ^ k ≠ 0 := Nat.mul_ne_zero zero (Nat.ne_of_gt (Nat.two_pow_pos k))
  rcases Nat.lt_or_eq_of_le h with small | rfl
  · have below : n * 2 ^ k < 2 ^ (53 + k) := by
      rw [Nat.pow_add]
      exact Nat.mul_lt_mul_of_pos_right small (Nat.two_pow_pos k)
    have log : (n * 2 ^ k).log2 < 53 + k := (Nat.log2_lt pos).2 below
    exact Nat.dvd_mul_left_of_dvd (Nat.pow_dvd_pow 2 (by omega)) n
  · rw [← Nat.pow_add]
    have log : (2 ^ (53 + k)).log2 = 53 + k := Nat.log2_two_pow
    rw [log]
    exact Nat.pow_dvd_pow 2 (by omega)

/-- Rounding lands on the grid. -/
theorem fits_nearest (num den : Nat) : Fits (nearest num den) := by
  unfold nearest
  generalize hk : (num / den).log2 - 52 = k
  have hs : spacing (num / den) = Nat.pow 2 k := by rw [spacing, hk]
  rw [hs]
  refine fits_mul_two_pow k (Nat.le_trans (roundDiv_le _ _) ?_)
  have lt : num / den < 2 ^ (53 + k) := by
    by_cases zero : num / den = 0
    · rw [zero]; exact Nat.two_pow_pos _
    · exact (Nat.log2_lt zero).1 (by omega)
  rw [Nat.pow_add] at lt
  rw [← Nat.div_div_eq_div_mul]
  have quotient : num / den / Nat.pow 2 k < 2 ^ 53 :=
    Nat.div_lt_of_lt_mul (Nat.mul_comm _ _ ▸ lt)
  omega

/-- A count that fits is its own nearest grid point. -/
theorem nearest_mul_of_fits {count den : Nat} (fits : Fits count) (pos : 0 < den) :
    nearest (den * count) den = count := by
  obtain ⟨m, hm⟩ := fits
  unfold nearest
  rw [Nat.mul_div_cancel_left count pos]
  have factor : den * count = den * spacing count * m := by
    rw [Nat.mul_assoc, ← hm]
  have unit : 0 < den * spacing count := Nat.mul_pos pos (Nat.two_pow_pos _)
  rw [factor, roundDiv_mul_left m _ unit, Nat.mul_comm]
  exact hm.symm

end Grid

end Vigil
