import Mathlib.Data.Nat.Prime.Basic
import Vigil.Proofs.Double.Error

/-!
# There and back

A number is multiplied by a short whole number and the product is divided by it again. Each of the
two steps rounds. The quotient is the number or one of its neighbours on the grid, and it is the
number exactly when the product was rounded by less than half of a spacing of the number, times the
whole number. A product is never rounded by just that half: it would have to be an odd multiple of a
half of what it is a multiple of. So the number returns in particular when it is the nearest one to a
ratio whose product with the whole number lies on the grid.
-/

namespace Vigil

namespace Grid

-- The number of quanta in one is far too large to be written out.
attribute [local irreducible] quantumBits

/-! ## The nearest point -/

/-- A ratio is rounded to a whole number that is nearer than one half. -/
theorem roundDiv_of_close (num whole : Nat) {den : Nat} (pos : 0 < den)
    (up : 2 * (den * whole) < 2 * num + den) (down : 2 * num < 2 * (den * whole) + den) :
    roundDiv num den = whole := by
  have above := two_mul_roundDiv_le num den
  have below := two_mul_le_roundDiv num pos
  apply Nat.le_antisymm
  · refine Nat.le_of_lt_succ (Nat.lt_of_mul_lt_mul_left (a := den) ?_)
    rw [Nat.mul_add_one]
    omega
  · refine Nat.le_of_lt_succ (Nat.lt_of_mul_lt_mul_left (a := den) ?_)
    rw [Nat.mul_add_one]
    omega

/-- A ratio that is less than one away from a whole number is rounded to it or to a neighbour. -/
theorem roundDiv_near {num whole step : Nat} (pos : 0 < step)
    (up : 2 * num < 2 * (step * whole) + 2 * step) (down : 2 * (step * whole) < 2 * num + 2 * step) :
    roundDiv num step ≤ whole + 1 ∧ whole ≤ roundDiv num step + 1 := by
  have above := two_mul_roundDiv_le num step
  have below := two_mul_le_roundDiv num pos
  have next : ∀ n, step * (n + 2) = step * n + 2 * step := fun n => by ring
  constructor <;> refine Nat.le_of_lt_succ (Nat.lt_of_mul_lt_mul_left (a := step) ?_) <;>
    rw [next] <;> omega

/-- A ratio that is no tie is rounded to the whole number that is nearer than one half. -/
theorem roundDiv_eq_iff {num whole step : Nat} (pos : 0 < step)
    (notAbove : 2 * num ≠ 2 * (step * whole) + step)
    (notBelow : 2 * num + step ≠ 2 * (step * whole)) :
    roundDiv num step = whole ↔
      2 * num ≤ 2 * (step * whole) + step ∧ 2 * (step * whole) ≤ 2 * num + step := by
  constructor
  · rintro rfl
    exact ⟨two_mul_le_roundDiv num pos, two_mul_roundDiv_le num step⟩
  · rintro ⟨less, more⟩
    exact roundDiv_of_close num whole pos (by omega) (by omega)

/-- No point of the grid is nearer to a ratio than the one to which it is rounded. The neighbour on
the other side of the ratio is at least one spacing away. -/
theorem nearest_close (num : Nat) {den point gap : Nat} (fits : Fits point) (pos : 0 < den)
    (up : 2 * (den * point) ≤ 2 * num + gap) (down : 2 * num ≤ 2 * (den * point) + gap) :
    2 * (den * nearest num den) ≤ 2 * num + gap ∧ 2 * num ≤ 2 * (den * nearest num den) + gap := by
  obtain ⟨above, below⟩ := nearest_within num pos
  have unit : 0 < spacing (num / den) := Nat.two_pow_pos _
  have floor : den * (num / den) ≤ num := Nat.mul_div_le num den
  have step : spacing (num / den) ∣ nearest num den := Nat.dvd_mul_left _ _
  have apart : ∀ {low high : Nat}, low + spacing (num / den) ≤ high →
      den * low + den * spacing (num / den) ≤ den * high := by
    intro low high far
    rw [← Nat.mul_add]
    exact Nat.mul_le_mul_left den far
  rcases Nat.le_total num (den * point) with beyond | under
  · have rounded := nearest_le fits pos beyond
    rcases Nat.lt_or_ge (den * nearest num den) num with short | long
    · have differ : nearest num den < point := Nat.lt_of_mul_lt_mul_left (a := den) (by omega)
      have reach : num / den ≤ point := Nat.div_le_of_le_mul beyond
      have held : spacing (num / den) ∣ point := Nat.dvd_trans (spacing_dvd_spacing reach) fits
      have far := apart (Nat.add_le_of_le_sub' rounded
        (Nat.le_of_dvd (Nat.sub_pos_of_lt differ) (Nat.dvd_sub held step)))
      omega
    · have within := Nat.mul_le_mul_left den rounded
      omega
  · have rounded := le_nearest fits pos under
    rcases Nat.lt_or_ge num (den * nearest num den) with long | short
    · have last := le_floor fits ((Nat.le_div_iff_mul_le pos).2 (Nat.mul_comm den point ▸ under))
      have differ : num / den / spacing (num / den) * spacing (num / den) < nearest num den := by
        refine Nat.lt_of_mul_lt_mul_left (a := den) (Nat.lt_of_le_of_lt ?_ long)
        exact Nat.le_trans (Nat.mul_le_mul_left den (Nat.div_mul_le_self _ _)) floor
      have far := apart (Nat.add_le_of_le_sub' (Nat.le_of_lt differ)
        (Nat.le_of_dvd (Nat.sub_pos_of_lt differ) (Nat.dvd_sub step (Nat.dvd_mul_left _ _))))
      have nearer := Nat.mul_le_mul_left den last
      omega
    · have within := Nat.mul_le_mul_left den rounded
      omega

/-- A point of the grid in steps of its spacing; above the lowest binade it has many of them. -/
theorem exists_steps {count : Nat} (fits : Fits count) :
    ∃ k steps, spacing count = Nat.pow 2 k ∧ count = Nat.pow 2 k * steps ∧ steps < 2 ^ 53 ∧
      (k = 0 ∨ 2 ^ 52 ≤ steps) := by
  rcases Nat.lt_or_ge count (2 ^ 52) with small | normal
  · exact ⟨0, count, spacing_of_lt small, (Nat.one_mul count).symm,
      Nat.lt_trans small (by decide), .inl rfl⟩
  · obtain ⟨steps, made⟩ := fits
    refine ⟨count.log2 - 52, steps, rfl, made, ?_, .inr ?_⟩
    · apply Nat.lt_of_mul_lt_mul_left (a := spacing count)
      rw [← made, Nat.mul_comm]
      exact lt_mul_spacing normal
    · refine Nat.le_of_mul_le_mul_left ?_ (Nat.two_pow_pos (count.log2 - 52))
      change spacing count * 2 ^ 52 ≤ spacing count * steps
      rw [← made, Nat.mul_comm]
      exact mul_spacing_le normal

/-- A ratio is rounded within the grid of its point. Rounding does not pass the first point of the
binade of the ratio. -/
theorem spacing_le_spacing_nearest (num : Nat) {den : Nat} (pos : 0 < den) :
    spacing (num / den) ≤ spacing (nearest num den) := by
  by_cases zero : num / den = 0
  · rw [zero]
    exact Nat.two_pow_pos _
  · have first : Nat.pow 2 (num / den).log2 ≤ num / den := Nat.log2_self_le zero
    have reached : Nat.pow 2 (num / den).log2 ≤ nearest num den := by
      refine le_nearest (fits_pow _) pos ?_
      exact Nat.le_trans (Nat.mul_le_mul_left den first) (Nat.mul_div_le num den)
    have binade : (Nat.pow 2 (num / den).log2).log2 = (num / den).log2 := Nat.log2_two_pow
    have grows := Nat.le_of_dvd (Nat.two_pow_pos _) (spacing_dvd_spacing reached)
    rwa [spacing, binade] at grows

/-! ## Products -/

/-- A count of few steps has a spacing of less than two steps. -/
theorem spacing_lt_two_mul {step few : Nat} (pos : 0 < step) (short : few < 2 ^ 53) :
    spacing (step * few) < 2 * step := by
  rcases Nat.lt_or_ge (step * few) (2 ^ 52) with small | normal
  · have least := spacing_of_lt small
    omega
  · have many := mul_spacing_le normal
    have less : step * few < step * 2 ^ 53 := Nat.mul_lt_mul_of_pos_left short pos
    omega

/-- No count of steps is rounded by just half of a step. -/
theorem two_mul_nearest_ne {step : Nat} (few odd : Nat) (pos : 0 < step)
    (gap : step ≤ spacing (step * few)) :
    2 * nearest (step * few) 1 ≠ step * (2 * odd + 1) := by
  intro half
  have held : 2 * spacing (step * few) ∣ step * (2 * odd + 1) := by
    rw [← half]
    have multiple : spacing (step * few / 1) ∣ nearest (step * few) 1 := Nat.dvd_mul_left _ _
    rw [Nat.div_one] at multiple
    exact Nat.mul_dvd_mul_left 2 multiple
  have coprime : Nat.Coprime (2 * spacing (step * few)) (2 * odd + 1) := by
    have two : Nat.Coprime 2 (2 * odd + 1) := Nat.coprime_two_left.2 (odd_two_mul_add_one odd)
    exact Nat.Coprime.mul_left two (Nat.Coprime.pow_left _ two)
  have whole := Nat.le_of_dvd pos (coprime.dvd_of_dvd_mul_right held)
  have unit : 0 < spacing (step * few) := Nat.two_pow_pos _
  omega

/-- A rounded count of steps is near to the count, and never half a step away. -/
theorem nearest_mul_near {step few : Nat} (pos : 0 < step) (short : few < 2 ^ 53) :
    2 * nearest (step * few) 1 < 2 * (step * few) + 2 * step ∧
      2 * (step * few) < 2 * nearest (step * few) 1 + 2 * step ∧
      2 * nearest (step * few) 1 ≠ 2 * (step * few) + step ∧
      2 * nearest (step * few) 1 + step ≠ 2 * (step * few) := by
  have narrow := spacing_lt_two_mul pos short
  obtain ⟨up, down⟩ := nearest_within (step * few) Nat.one_pos
  rw [Nat.one_mul, Nat.one_mul, Nat.div_one] at up down
  refine ⟨by omega, by omega, fun above => ?_, fun below => ?_⟩
  · refine two_mul_nearest_ne few few pos (by omega) ?_
    rw [above]
    ring
  · cases few with
    | zero => omega
    | succ few =>
      refine two_mul_nearest_ne (few + 1) few pos (by omega) ?_
      apply Nat.add_right_cancel (m := step)
      rw [below]
      ring

/-- A product that leaves the grid is not that of the first point of a binade. -/
theorem steps_ne_of_not_fits {k steps width : Nat} (short : width ≤ 2 ^ 53)
    (outside : ¬Fits (width * Nat.pow 2 k * steps)) : steps ≠ 2 ^ 52 := by
  rintro rfl
  refine outside ?_
  have shifted : width * Nat.pow 2 k * 2 ^ 52 = width * Nat.pow 2 (k + 52) := by
    rw [← pow_mul_pow, Nat.mul_assoc]
    rfl
  rw [shifted]
  exact fits_mul_two_pow _ short

/-- A product that is less than one step off has a quotient in the binade of the steps. -/
theorem spacing_div_of_near {product width k steps : Nat} (pos : 0 < width) (few : steps < 2 ^ 53)
    (inside : k = 0 ∨ 2 ^ 52 < steps)
    (up : 2 * product < 2 * (width * Nat.pow 2 k * steps) + 2 * (width * Nat.pow 2 k))
    (down : 2 * (width * Nat.pow 2 k * steps) < 2 * product + 2 * (width * Nat.pow 2 k)) :
    spacing (product / width) = Nat.pow 2 k := by
  apply spacing_of_between
  · refine inside.imp_right fun least => ?_
    rw [Nat.le_div_iff_mul_le pos]
    have lower := Nat.mul_le_mul_left (width * Nat.pow 2 k) (Nat.succ_le_of_lt least)
    have split : width * Nat.pow 2 k * (2 ^ 52 + 1) =
        2 ^ 52 * Nat.pow 2 k * width + width * Nat.pow 2 k := by ring
    omega
  · rw [Nat.div_lt_iff_lt_mul pos]
    have next : steps + 1 ≤ 2 ^ 53 := few
    have upper := Nat.mul_le_mul_left (width * Nat.pow 2 k) next
    have split : width * Nat.pow 2 k * (steps + 1) =
        width * Nat.pow 2 k * steps + width * Nat.pow 2 k := by ring
    have top : width * Nat.pow 2 k * 2 ^ 53 = 2 ^ 53 * Nat.pow 2 k * width := by ring
    omega

/-- A count that is multiplied, rounded, divided and rounded again is found within one spacing. It is
found exactly when the product was rounded by at most half of that, times the factor. -/
theorem nearest_return {count width : Nat} (fits : Fits count) (pos : 0 < width)
    (short : width ≤ 2 ^ 53) :
    nearest (nearest (count * width) 1) width ≤ count + spacing count ∧
      count ≤ nearest (nearest (count * width) 1) width + spacing count ∧
      (nearest (nearest (count * width) 1) width = count ↔
        2 * nearest (count * width) 1 ≤ 2 * (count * width) + width * spacing count ∧
          2 * (count * width) ≤ 2 * nearest (count * width) 1 + width * spacing count) := by
  have gap : 0 < width * spacing count := Nat.mul_pos pos (Nat.two_pow_pos _)
  by_cases exact : Fits (count * width)
  · have product : nearest (count * width) 1 = count * width := by
      simpa only [Nat.one_mul] using nearest_mul_of_fits exact Nat.one_pos
    rw [product, Nat.mul_comm count, nearest_mul_of_fits fits pos]
    exact ⟨by omega, by omega, iff_of_true rfl ⟨by omega, by omega⟩⟩
  · obtain ⟨k, steps, spaced, made, few, normal⟩ := exists_steps fits
    have unit : 0 < width * Nat.pow 2 k := Nat.mul_pos pos (pow_pos k)
    have scaled : count * width = width * Nat.pow 2 k * steps := by
      rw [made]
      ring
    rw [scaled] at exact
    have inside : k = 0 ∨ 2 ^ 52 < steps :=
      normal.imp_right fun least => Nat.lt_of_le_of_ne least (steps_ne_of_not_fits short exact).symm
    obtain ⟨up, down, notAbove, notBelow⟩ := nearest_mul_near unit few
    rw [spaced, scaled, made, Nat.mul_comm (Nat.pow 2 k) steps]
    generalize nearest (width * Nat.pow 2 k * steps) 1 = product at *
    have rounded : nearest product width =
        roundDiv product (width * Nat.pow 2 k) * Nat.pow 2 k := by
      rw [nearest, spacing_div_of_near pos few inside up down]
    obtain ⟨upper, lower⟩ := roundDiv_near unit up down
    rw [rounded, Nat.mul_left_inj (Nat.ne_of_gt (pow_pos k)),
      roundDiv_eq_iff unit notAbove notBelow, ← Nat.succ_mul, ← Nat.succ_mul]
    exact ⟨Nat.mul_le_mul_right _ upper, Nat.mul_le_mul_right _ lower, Iff.rfl⟩

/-- The nearest count to a ratio is found again when the ratio, multiplied, is a point of the grid. -/
theorem nearest_return_of_ratio {num den width point : Nat} (pos : 0 < den) (factor : 0 < width)
    (short : width ≤ 2 ^ 53) (fits : Fits point) (exact : num * width = den * point) :
    nearest (nearest (nearest num den * width) 1) width = nearest num den := by
  have half := Nat.mul_le_mul_left den (spacing_le_spacing_nearest num pos)
  obtain ⟨above, below⟩ := nearest_within num pos
  rw [(nearest_return (fits_nearest num den) factor short).2.2]
  have scaled : ∀ {low high : Nat}, 2 * low ≤ 2 * high + den * spacing (nearest num den) →
      2 * (low * width) ≤ 2 * (high * width) + den * (width * spacing (nearest num den)) := by
    intro low high within
    calc
      2 * (low * width) = 2 * low * width := (Nat.mul_assoc _ _ _).symm
      _ ≤ (2 * high + den * spacing (nearest num den)) * width := Nat.mul_le_mul_right width within
      _ = _ := by ring
  have cancel : ∀ {low high : Nat},
      2 * (den * low) ≤ 2 * (den * high) + den * (width * spacing (nearest num den)) →
      2 * low ≤ 2 * high + width * spacing (nearest num den) := by
    intro low high within
    apply Nat.le_of_mul_le_mul_left _ pos
    calc
      den * (2 * low) = 2 * (den * low) := Nat.mul_left_comm _ _ _
      _ ≤ _ := within
      _ = den * (2 * high + width * spacing (nearest num den)) := by ring
  have up : 2 * (nearest num den * width) ≤ 2 * point + width * spacing (nearest num den) := by
    apply cancel
    rw [← exact, ← Nat.mul_assoc den]
    exact scaled (by omega)
  have down : 2 * point ≤ 2 * (nearest num den * width) + width * spacing (nearest num den) := by
    apply cancel
    rw [← exact, ← Nat.mul_assoc den]
    exact scaled (by omega)
  have near := nearest_close (nearest num den * width) fits Nat.one_pos
    (by rw [Nat.one_mul]; exact down) (by rw [Nat.one_mul]; exact up)
  rwa [Nat.one_mul] at near

end Grid

end Vigil
