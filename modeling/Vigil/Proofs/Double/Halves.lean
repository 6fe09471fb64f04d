import Vigil.Proofs.Double.Whole

/-!
# Rounding twice

A number is divided by an even whole number and the quotient is rounded to a whole number. That is
two roundings, of which the first could move a quotient onto the middle between two whole numbers.
It does not for numbers below `2 ^ 53`: the middle times the divisor is a point of the number's own
grid, and the first rounding moves the quotient by less than what separates two such points. So the
whole number is the one that is nearest to the exact quotient.
-/

namespace Vigil

namespace Grid

-- The number of quanta in one is far too large to be written out.
attribute [local irreducible] quantumBits

/-- Between two whole numbers, the middle decides how a ratio is rounded. -/
theorem roundDiv_of_between {num den low : Nat} (pos : 0 < den) (above : den * low ≤ num)
    (below : num ≤ den * (low + 1)) :
    roundDiv num den =
      if 2 * num < den * (2 * low + 1) ∨ (2 * num = den * (2 * low + 1) ∧ low % 2 = 0) then low
      else low + 1 := by
  have upper : den * (low + 1) = den * low + den := Nat.mul_add_one den low
  have middle : den * (2 * low + 1) = 2 * (den * low) + den := by ring
  by_cases top : num = den * (low + 1)
  · rw [top, roundDiv_mul_left _ _ pos, if_neg (by omega)]
  · have quotient : num / den = low :=
      Nat.div_eq_of_lt_le (by rw [Nat.mul_comm]; exact above)
        (by rw [Nat.mul_comm]; omega)
    have parts := Nat.div_add_mod num den
    rw [quotient] at parts
    rw [roundDiv, quotient]
    have less : 2 * (num % den) < den ↔ 2 * num < den * (2 * low + 1) := by omega
    have same : 2 * (num % den) = den ↔ 2 * num = den * (2 * low + 1) := by omega
    simp only [less, same]

/-- Below `2 ^ 53`, one is a point of the grid of every number. -/
theorem spacing_dvd_one {count : Nat} (short : count < 2 ^ 53 * one) :
    spacing count ∣ one := by
  by_cases zero : count = 0
  · rw [zero]
    exact Nat.one_dvd one
  · have below : count < Nat.pow 2 (53 + quantumBits) := by
      calc
        count < 2 ^ 53 * one := short
        _ = Nat.pow 2 (53 + quantumBits) := pow_mul_one 53
    have binade : count.log2 < 53 + quantumBits := (Nat.log2_lt zero).2 below
    have exponent : count.log2 - 52 ≤ quantumBits := by omega
    unfold one spacing
    exact pow_dvd_pow exponent

/-- A point of the grid of a count that is no farther from it than a rounding error is the count. -/
theorem eq_of_near_point {count point : Nat} (normal : 2 ^ 52 ≤ count) (fits : Fits count)
    (held : spacing count ∣ point) (up : 2 ^ 53 * point ≤ 2 ^ 53 * count + count)
    (down : 2 ^ 53 * count ≤ 2 ^ 53 * point + count) : count = point := by
  have narrow := lt_mul_spacing normal
  obtain ⟨steps, here⟩ := fits
  obtain ⟨others, there⟩ := held
  have equal : steps = others := by
    apply Nat.le_antisymm
    · apply Nat.le_of_lt_succ
      apply Nat.lt_of_mul_lt_mul_left (a := spacing count * 2 ^ 53)
      calc
        spacing count * 2 ^ 53 * steps = 2 ^ 53 * (spacing count * steps) := by ring
        _ = 2 ^ 53 * count := by rw [← here]
        _ ≤ 2 ^ 53 * point + count := down
        _ < 2 ^ 53 * point + 2 ^ 53 * spacing count := Nat.add_lt_add_left narrow _
        _ = spacing count * 2 ^ 53 * (others + 1) := by rw [there]; ring
    · apply Nat.le_of_lt_succ
      apply Nat.lt_of_mul_lt_mul_left (a := spacing count * 2 ^ 53)
      calc
        spacing count * 2 ^ 53 * others = 2 ^ 53 * point := by rw [there]; ring
        _ ≤ 2 ^ 53 * count + count := up
        _ < 2 ^ 53 * count + 2 ^ 53 * spacing count := Nat.add_lt_add_left narrow _
        _ = 2 ^ 53 * (spacing count * steps) + 2 ^ 53 * spacing count := by rw [← here]
        _ = spacing count * 2 ^ 53 * (steps + 1) := by ring
  rw [here, there, equal]

/-- A quotient that is rounded to one half or more has all significant bits. -/
theorem normal_of_nearest {count den : Nat} (pos : 0 < den)
    (large : one ≤ 2 * nearest count den) : 2 ^ 52 ≤ count / den := by
  apply Nat.le_of_not_lt
  intro tiny
  have within : count ≤ den * 2 ^ 52 :=
    Nat.le_of_lt ((Nat.div_lt_iff_lt_mul pos).1 tiny |>.trans_eq (Nat.mul_comm _ _))
  have rounded : nearest count den ≤ 2 ^ 52 := nearest_le (fits_pow 52) pos within
  have top : Nat.pow 2 53 < one := pow_lt_one (by decide)
  have value : Nat.pow 2 53 = 2 * 2 ^ 52 := by decide
  omega

/-- A quotient that is rounded to the middle between two whole numbers is that middle. The middle
times the divisor is a point of the grid of the count. -/
theorem eq_of_nearest_middle {count half : Nat} (low : Nat) (fits : Fits count)
    (short : count < 2 ^ 53 * one) (divisor : 0 < half)
    (middle : 2 * nearest count (2 * half) = one * (2 * low + 1)) :
    2 * count = 2 * half * one * (2 * low + 1) := by
  have pos : 0 < 2 * half := by omega
  have large : one ≤ 2 * nearest count (2 * half) := by
    rw [middle]
    exact Nat.le_mul_of_pos_right one (by omega)
  have normal := normal_of_nearest pos large
  obtain ⟨up, down⟩ := nearest_error pos normal
  have reached : 2 * half * nearest count (2 * half) = half * (one * (2 * low + 1)) := by
    rw [← middle]
    ring
  rw [reached] at up down
  have held : spacing count ∣ half * (one * (2 * low + 1)) :=
    Nat.dvd_mul_left_of_dvd (Nat.dvd_mul_right_of_dvd (spacing_dvd_one short) _) half
  have wide : 2 ^ 52 ≤ count := Nat.le_trans normal (Nat.div_le_self _ _)
  have equal := eq_of_near_point wide fits held up down
  calc
    2 * count = 2 * (half * (one * (2 * low + 1))) := by rw [← equal]
    _ = 2 * half * one * (2 * low + 1) := by ring

/-- A quotient keeps to its side of the middle between two whole numbers when it is rounded. -/
theorem nearest_beside_middle {count half : Nat} (low : Nat) (fits : Fits count)
    (short : count < 2 ^ 53 * one) (divisor : 0 < half) (odd : 2 * low + 1 ≤ 2 ^ 53) :
    (2 * nearest count (2 * half) < one * (2 * low + 1) ↔
        2 * count < 2 * half * one * (2 * low + 1)) ∧
      (2 * nearest count (2 * half) = one * (2 * low + 1) ↔
        2 * count = 2 * half * one * (2 * low + 1)) := by
  have pos : 0 < 2 * half := by omega
  obtain ⟨middle, twice, point⟩ := fits_half odd
  have target : 2 * half * one * (2 * low + 1) = 2 * (2 * half * middle) := by
    calc
      2 * half * one * (2 * low + 1) = 2 * half * (one * (2 * low + 1)) := by ring
      _ = 2 * half * (2 * middle) := by rw [twice]
      _ = 2 * (2 * half * middle) := by ring
  have back := eq_of_nearest_middle low fits short divisor
  rw [← twice, target] at *
  rcases Nat.lt_trichotomy count (2 * half * middle) with less | same | more
  · have rounded := nearest_le point pos (Nat.le_of_lt less)
    omega
  · have rounded : nearest count (2 * half) = middle := by
      rw [same]
      exact nearest_mul_of_fits point pos
    omega
  · have rounded := le_nearest point pos (Nat.le_of_lt more)
    omega

/-- A short number is divided by an even number and rounded to a whole one as if the quotient were
exact. -/
theorem roundDiv_nearest {count : Nat} (half : Nat) (fits : Fits count)
    (short : count < 2 ^ 53 * one) (divisor : 0 < half) :
    roundDiv (nearest count (2 * half)) one = roundDiv count (2 * half * one) := by
  have pos : 0 < 2 * half := by omega
  have unit : 0 < 2 * half * one := Nat.mul_pos pos one_pos
  obtain ⟨low, quotient⟩ : ∃ low, low = count / (2 * half * one) := ⟨_, rfl⟩
  have above : 2 * half * one * low ≤ count := by
    rw [quotient]
    exact Nat.mul_div_le _ _
  have below : count ≤ 2 * half * one * (low + 1) := by
    rw [quotient]
    exact Nat.le_of_lt (Nat.lt_mul_div_succ count unit)
  have few : 2 * low < 2 ^ 53 := by
    apply Nat.lt_of_mul_lt_mul_right (a := one)
    calc
      2 * low * one ≤ 2 * low * one * half := Nat.le_mul_of_pos_right _ divisor
      _ = 2 * half * one * low := by ring
      _ ≤ count := above
      _ < 2 ^ 53 * one := short
  have lower : one * low ≤ nearest count (2 * half) := by
    have held := held_of_le (n := low) (by omega)
    rw [Nat.mul_comm one]
    apply le_nearest held.fits pos
    calc
      2 * half * (low * one) = 2 * half * one * low := by ring
      _ ≤ count := above
  have upper : nearest count (2 * half) ≤ one * (low + 1) := by
    have held := held_of_le (n := low + 1) (by omega)
    rw [Nat.mul_comm one]
    apply nearest_le held.fits pos
    calc
      count ≤ 2 * half * one * (low + 1) := below
      _ = 2 * half * ((low + 1) * one) := by ring
  obtain ⟨less, same⟩ := nearest_beside_middle low fits short divisor (by omega)
  rw [roundDiv_of_between one_pos lower upper, roundDiv_of_between unit above below]
  simp only [less, same]

end Grid

end Vigil
