import Vigil.Proofs.Double.Return
import Vigil.Proofs.Interval.Arithmetic

/-!
# Intervals in their own unit

An interval is converted by way of milliseconds, also into the unit that it has: its number is
multiplied by the length of the unit and divided by it again. A product out of range leaves infinity.
Any other one leaves the number or one of its neighbours, and the number itself exactly when the
product was rounded by no more than half of a step of the number, times the length of the unit. A
decimal whose exact length in milliseconds is a binary64 number comes back, so whole milliseconds
do.
-/

namespace Vigil

attribute [local irreducible] Grid.quantumBits

namespace Magnitude

/-- The distance of a magnitude from the next one above it. -/
def step (m : Magnitude) : ℚ := Grid.spacing m.count / Grid.one

/-- Magnitudes are the same when their counts are. -/
theorem eq_iff_count {m n : Magnitude} : m = n ↔ m.count = n.count := by
  constructor
  · rintro rfl
    rfl
  · intro same
    cases m
    cases n
    cases same
    rfl

end Magnitude

namespace Grid

/-- Counts of quanta are as far from each other as their numbers are. -/
theorem abs_sub_le_iff_count {count other gap : ℕ} :
    |(count : ℚ) / one - other / one| ≤ gap / one ↔ count ≤ other + gap ∧ other ≤ count + gap := by
  rw [abs_sub_le_iff_quanta]
  exact_mod_cast Iff.rfl

end Grid

/-- The error of a product, told in counts. -/
theorem Magnitude.error_le_iff {p m : Magnitude} {n : ℕ} :
    2 * |p.value - m.value * n| ≤ n * m.step ↔
      2 * p.count ≤ 2 * (m.count * n) + n * Grid.spacing m.count ∧
        2 * (m.count * n) ≤ 2 * p.count + n * Grid.spacing m.count := by
  have error : 2 * |p.value - m.value * n| =
      |((2 * p.count : ℕ) : ℚ) / Grid.one - (2 * (m.count * n) : ℕ) / Grid.one| := by
    rw [← abs_two, ← abs_mul, value, value]
    push_cast
    ring_nf
  have half : n * m.step = ((n * Grid.spacing m.count : ℕ) : ℚ) / Grid.one := by
    rw [step, Nat.cast_mul, mul_div_assoc]
  rw [error, half, Grid.abs_sub_le_iff_count]

namespace Interval

/-- The product of a number of units with their length is in range when the exact one is. -/
theorem nearest_mul_millis_lt_iff (m : Magnitude) (unit : TimeUnit) :
    Grid.nearest (m.count * unit.millis) 1 < Grid.bound ↔ m.value * unit.millis < Double.overflow := by
  rw [Grid.nearest_lt_bound_iff Nat.one_pos, Nat.one_mul, Double.overflow_eq_limit, Magnitude.value,
    div_mul_eq_mul_div, div_lt_div_iff_of_pos_right Grid.one_pos_rat]
  exact_mod_cast Iff.rfl

/-- The number of an interval in its own unit is the product, rounded, divided and rounded again. -/
theorem inUnit_self_of_inRange {m : Magnitude} {unit : TimeUnit} (negative : Bool)
    (inRange : m.value * unit.millis < Double.overflow) :
    ∃ p n : Magnitude, p.count = Grid.nearest (m.count * unit.millis) 1 ∧
      n.count = Grid.nearest p.count unit.millis ∧
      millis ⟨.finite negative m, unit⟩ = .finite negative p ∧
      inUnit ⟨.finite negative m, unit⟩ unit = .finite negative n := by
  have held := unit.held_millis
  have below := (nearest_mul_millis_lt_iff m unit).2 inRange
  obtain ⟨p, product⟩ : ∃ p : Magnitude, p.count = Grid.nearest (m.count * unit.millis) 1 :=
    ⟨⟨_, Grid.fits_nearest _ _, below⟩, rfl⟩
  have smaller : Grid.nearest p.count unit.millis < Grid.bound :=
    Nat.lt_of_le_of_lt (Grid.nearest_le p.fits unit.millis_pos
      (Nat.le_mul_of_pos_left _ unit.millis_pos)) p.below
  have length : .finite negative m * unit.width = .finite negative p := by
    rw [TimeUnit.width, Double.ofNat_eq_whole, Double.finite_mul_whole negative m held,
      Double.ofRatio, dif_pos below]
    cases p
    cases product
    rfl
  refine ⟨p, ⟨_, Grid.fits_nearest _ _, smaller⟩, product, rfl, length, ?_⟩
  rw [inUnit, convert, length, TimeUnit.width, Double.ofNat_eq_whole,
    Double.finite_div_whole negative false p held unit.millis_pos, Bool.bne_false, Double.ofRatio,
    dif_pos smaller]

/-- A product out of range leaves infinity. -/
theorem inUnit_self_of_overflow {m : Magnitude} {unit : TimeUnit} (negative : Bool)
    (outside : ¬m.value * unit.millis < Double.overflow) :
    inUnit ⟨.finite negative m, unit⟩ unit = .infinite negative := by
  have held := unit.held_millis
  have above := (nearest_mul_millis_lt_iff m unit).not.2 outside
  rw [inUnit, convert, TimeUnit.width, Double.ofNat_eq_whole, Double.finite_mul_whole negative m held,
    Double.ofRatio, dif_neg above, Double.whole_of_held false held, Double.infinite_div]

/-- Infinity stays. -/
theorem inUnit_self_of_infinite (negative : Bool) (unit : TimeUnit) :
    inUnit ⟨.infinite negative, unit⟩ unit = .infinite negative := by
  obtain ⟨width, same, one⟩ := unit.exists_width_ge
  rw [inUnit, convert, same,
    Double.infinite_mul negative (Nat.lt_of_lt_of_le Grid.one_pos one), Double.infinite_div]

/-- The magnitude of a spelled interval returns when its exact length is a binary64 number. -/
theorem nearest_return_of_spelling {s : Spelling} {negative : Bool} {m q : Magnitude}
    (value : s.value = .finite negative m) (exact : q.value = s.decimal.value * s.unit.millis) :
    Grid.nearest (Grid.nearest (m.count * s.unit.millis) 1) s.unit.millis = m.count := by
  have pos := s.decimal.ratio_pos
  have divisor : (0 : ℚ) < s.decimal.ratio.2 := Nat.cast_pos.2 pos
  have short : s.unit.millis ≤ 2 ^ 53 := by cases s.unit <;> decide
  rw [Spelling.value, Double.ofDecimal_eq_ofRatio] at value
  have scaled : s.decimal.ratio.1 * s.unit.millis = s.decimal.ratio.2 * q.count := by
    rw [Magnitude.value, Decimal.value_eq_ratio, div_mul_eq_mul_div,
      div_eq_div_iff (ne_of_gt Grid.one_pos_rat)
        (ne_of_gt (mul_pos divisor Grid.one_pos_rat)), ← mul_assoc,
      mul_left_inj' (ne_of_gt Grid.one_pos_rat)] at exact
    have whole : q.count * s.decimal.ratio.2 = s.decimal.ratio.1 * s.unit.millis := by
      exact_mod_cast exact
    rw [← whole, Nat.mul_comm]
  rw [Double.count_of_ofRatio value]
  exact Grid.nearest_return_of_ratio pos s.unit.millis_pos short q.fits scaled

/-- An interval that is read is converted into its own unit as follows. An infinite number stays. A
finite one whose product with the length of the unit is out of range becomes infinite. Any other one
moves to a neighbour at most, and stays exactly when the product was rounded by no more than half of
a step, times the length of the unit; it stays where the decimal has an exact length in
milliseconds. -/
theorem inUnit_of_read {text : String} {i : Interval} (accepted : read text = .ok i) :
    (i.value.isFinite = false → i.inUnit i.unit = i.value) ∧
    ∀ negative m, i.value = .finite negative m →
      if m.value * i.unit.millis < Double.overflow then
        ∃ p n : Magnitude, i.millis = .finite negative p ∧ i.inUnit i.unit = .finite negative n ∧
          |n.value - m.value| ≤ m.step ∧
          (n = m ↔ 2 * |p.value - m.value * i.unit.millis| ≤ i.unit.millis * m.step) ∧
          ∀ s : Spelling, s.Spells text →
            (∃ q : Magnitude, q.value = s.decimal.value * s.unit.millis) → n = m
      else i.inUnit i.unit = .infinite negative := by
  obtain ⟨value, unit⟩ := i
  constructor
  · intro infinite
    cases value with
    | nan => rfl
    | infinite negative => exact inUnit_self_of_infinite negative unit
    | finite negative m => cases infinite
  · rintro negative m rfl
    split
    · rename_i inRange
      obtain ⟨p, n, product, quotient, length, converted⟩ := inUnit_self_of_inRange negative inRange
      have short : unit.millis ≤ 2 ^ 53 := by cases unit <;> decide
      obtain ⟨up, down, returns⟩ := Grid.nearest_return m.fits unit.millis_pos short
      rw [← product, ← quotient] at up down returns
      refine ⟨p, n, length, converted, Grid.abs_sub_le_iff_count.2 ⟨up, down⟩, ?_, ?_⟩
      · rw [Magnitude.eq_iff_count, returns, Magnitude.error_le_iff]
      · rintro s spells ⟨q, exact⟩
        have spelled := eq_of_spells accepted spells
        obtain ⟨value, rfl⟩ := Interval.mk.inj spelled
        rw [Magnitude.eq_iff_count, quotient, product]
        exact nearest_return_of_spelling value.symm exact
    · rename_i outside
      exact inUnit_self_of_overflow negative outside

/-- A fifth more than a day is a whole number of milliseconds, and it comes back. -/
theorem inUnit_of_one_and_a_fifth_days :
    ∃ i, read "1.2day" = .ok i ∧ i.unit = .day ∧ i.inUnit .day = i.value := by
  have accepted : read "1.2day" = .ok ⟨.ofDecimal false ⟨12, -1⟩, .day⟩ := by decide +kernel
  have finite : (inUnit ⟨.ofDecimal false ⟨12, -1⟩, .day⟩ .day).isFinite = true := by decide +kernel
  have spells : (⟨false, ['1'], some ['2'], .day, true⟩ : Spelling).Spells "1.2day" :=
    ⟨⟨List.cons_ne_nil _ _, List.all_eq_true.1 (by decide)⟩, by decide +kernel⟩
  have exact : ∃ q : Magnitude, q.value =
      (⟨12, -1⟩ : Decimal).value * TimeUnit.day.millis := by
    obtain ⟨q, -, whole⟩ := Double.exists_whole (Grid.held_of_le (n := 103680000) (by decide))
    refine ⟨q, whole.trans ?_⟩
    norm_num [Decimal.value, TimeUnit.millis]
  obtain ⟨negative, m, value⟩ : ∃ negative m,
      Double.ofDecimal false ⟨12, -1⟩ = .finite negative m :=
    Double.exists_of_isFinite (by decide +kernel)
  refine ⟨_, accepted, rfl, ?_⟩
  have converted := (inUnit_of_read accepted).2 negative m value
  split at converted
  · obtain ⟨p, n, -, result, -, -, returns⟩ := converted
    rw [result, returns _ spells exact]
    exact value.symm
  · rw [converted] at finite
    cases finite

/-- Twenty-one ten-thousandths of a second are converted into another number of seconds. -/
theorem thousandths_do_not_return :
    ∃ i, read "0.0021s" = .ok i ∧ i.unit = .second ∧ (i.inUnit .second).same i.value = false :=
  ⟨⟨.ofDecimal false ⟨21, -4⟩, .second⟩, by decide +kernel, rfl, by decide +kernel⟩

end Interval

end Vigil
