import Vigil.Proofs.Decimal.Literal
import Vigil.Proofs.Interval.Refusal

/-!
# Displayed intervals

The text of an interval is always read as an interval again, in the same unit. A number of units that
is not whole is shown with the fewest digits that read back, and a whole one is shown as an integer of
64 bits. So an interval is read back with an equal number up to `2 ^ 63` units, and beyond that it is
read back as `2 ^ 63` of them.
-/

namespace Vigil

attribute [local irreducible] Grid.quantumBits

namespace Grid

/-- A count from `2 ^ 53` on is a whole number. -/
theorem one_dvd_of_large {count : Nat} (fits : Fits count) (large : 2 ^ 53 * one ≤ count) :
    one ∣ count := by
  have power : 2 ^ (53 + quantumBits) ≤ count := by
    calc
      2 ^ (53 + quantumBits) = 2 ^ 53 * one := (pow_mul_one 53).symm
      _ ≤ count := large
  have nonzero : count ≠ 0 := Nat.ne_of_gt (Nat.lt_of_lt_of_le (Nat.two_pow_pos _) power)
  have binade : 53 + quantumBits ≤ count.log2 := (Nat.le_log2 nonzero).2 power
  refine Nat.dvd_trans ?_ fits
  unfold one spacing
  exact pow_dvd_pow (by omega)

end Grid

namespace Interval

/-- The largest number of units that the text of an interval tells. -/
def shownBound : Double := .ofNat (2 ^ 63)

/-- The bound is held exactly. -/
theorem held_shownBound : Grid.Held (2 ^ 63) := by
  have held := Grid.held_mul_two_pow (n := 1) (k := 63) (by decide) (by decide)
  rwa [Nat.one_mul] at held

/-- The place of the bound. -/
theorem place_shownBound : shownBound.place = some ((2 ^ 63 * Grid.one : Nat) : Int) := by
  rw [shownBound, Double.ofNat_eq_whole, Double.place_whole false held_shownBound]
  rfl

/-- An interval that can be made has a finite number of units without a sign, apart from zero. -/
theorem exists_of_make {value : Double} {unit : TimeUnit} {i : Interval}
    (made : make value unit = .ok i) : i = ⟨value, unit⟩ ∧
      ∃ negative m, value = .finite negative m ∧ (negative = true → m.count = 0) := by
  unfold make at made
  dsimp only at made
  split at made
  · cases made
  · rename_i finite
    split at made
    · cases made
    · rename_i above
      cases made
      refine ⟨rfl, ?_⟩
      cases value with
      | nan => exact absurd rfl finite
      | infinite negative => exact absurd rfl finite
      | finite negative m =>
        refine ⟨negative, m, rfl, ?_⟩
        rintro rfl
        exact Double.count_eq_zero_of_not_below (Bool.not_eq_true _ ▸ above)

/-- A literal without a sign and the long name of a unit are read as that many units. -/
theorem read_literal_name {size : Double} {text : List Char}
    (literal : Double.Literal false size text) (unit : TimeUnit) :
    read (String.ofList text ++ unit.name) = .ok ⟨size, unit⟩ := by
  obtain ⟨whole, places, rfl, some, ascii, rfl⟩ := literal
  obtain ⟨lettered, alphabetic⟩ := Spelling.letters_alpha ⟨false, whole, places, unit, true⟩
  let shape : Shape (String.ofList (Double.signText false ++ Decimal.written whole places) ++
      unit.name).toList :=
    { before := []
      negative := false
      whole := whole
      places := places
      letters := unit.name.toList
      after := []
      made := by simp
      blankBefore := by simp [Text.IsGap]
      blankAfter := by simp [Text.IsGap]
      script := fun c member => Text.isDecimalDigit_of_isDigit (ascii c member)
      lettered := lettered
      alphabetic := alphabetic }
  have nonempty : whole ++ places.getD [] ≠ [] := List.append_ne_nil_of_left_ne_nil some _
  rw [read, mapError_eq_ok_iff, readChars_eq_ok_iff]
  exact ⟨shape, .inr rfl, ⟨nonempty, ascii⟩, rfl, Bool.noConfusion⟩

/-- A number of units that is not whole is below the bound. -/
theorem lt_shownBound_of_not_whole {m : Magnitude} (part : ¬m.count % Grid.one = 0) :
    m.count < 2 ^ 63 * Grid.one := by
  have small : m.count < 2 ^ 53 * Grid.one := by
    apply Nat.lt_of_not_le
    exact fun large => part (Nat.mod_eq_zero_of_dvd (Grid.one_dvd_of_large m.fits large))
  exact Nat.lt_of_lt_of_le small (Nat.mul_le_mul_right _ (by decide))

/-- The integer of a whole number of units without a sign goes up to 64 bits. -/
theorem toInt64_of_unsigned {negative : Bool} {m : Magnitude}
    (unsigned : negative = true → m.count = 0) :
    (Double.finite negative m).toInt64 =
      ((min (m.count / Grid.one) (2 ^ 63 - 1) : Nat) : Int) := by
  simp only [Double.toInt64]
  split
  · rename_i minus
    rw [unsigned minus, Nat.zero_div]
    rfl
  · generalize m.count / Grid.one = n
    omega

/-- A whole number of units is read back as that integer. -/
theorem read_text_of_whole {negative : Bool} {m : Magnitude} (unit : TimeUnit)
    (unsigned : negative = true → m.count = 0) (whole : m.count % Grid.one = 0) :
    read (text ⟨.finite negative m, unit⟩) =
      .ok ⟨.whole false (min (m.count / Grid.one) (2 ^ 63 - 1)), unit⟩ := by
  have isWhole : (Double.finite negative m).isWhole = true := decide_eq_true whole
  have literal := Double.literal_integer (Double.finite negative m).toInt64
  rw [text, valueText, if_pos isWhole]
  rw [toInt64_of_unsigned unsigned] at literal ⊢
  generalize min (m.count / Grid.one) (2 ^ 63 - 1) = n at literal ⊢
  have above : decide ((n : Int) < 0) = false := decide_eq_false (by omega)
  rw [above, Int.natAbs_natCast] at literal
  exact read_literal_name literal unit

/-- Up to the bound this is the number itself, and beyond it the bound. -/
theorem place_of_shown {m : Magnitude} (whole : m.count % Grid.one = 0) :
    (Double.whole false (min (m.count / Grid.one) (2 ^ 63 - 1))).place =
      some ((min m.count (2 ^ 63 * Grid.one) : Nat) : Int) := by
  have count : m.count / Grid.one * Grid.one = m.count :=
    Nat.div_mul_cancel (Nat.dvd_of_mod_eq_zero whole)
  rcases Nat.lt_or_ge (m.count / Grid.one) (2 ^ 63) with few | many
  · have held : Grid.Held (m.count / Grid.one) := ⟨count.symm ▸ m.fits, count.symm ▸ m.below⟩
    have least : min m.count (2 ^ 63 * Grid.one) = m.count := by
      apply Nat.min_eq_left
      rw [← count]
      exact Nat.mul_le_mul_right _ (Nat.le_of_lt few)
    rw [Nat.min_eq_left (by omega), Double.place_whole false held, least, count]
    rfl
  · have rounded : Double.whole false (2 ^ 63 - 1) = shownBound := by decide +kernel
    have least : min m.count (2 ^ 63 * Grid.one) = 2 ^ 63 * Grid.one := by
      apply Nat.min_eq_right
      rw [← count]
      exact Nat.mul_le_mul_right _ many
    rw [Nat.min_eq_right (by omega), rounded, place_shownBound, least]

/-- An interval of units that are not whole is read back as it is. -/
theorem read_text_of_part {m : Magnitude} (unit : TimeUnit) (part : ¬m.count % Grid.one = 0) :
    read (text ⟨.finite false m, unit⟩) = .ok ⟨.finite false m, unit⟩ := by
  have isWhole : ¬(Double.finite false m).isWhole = true := by simpa [Double.isWhole] using part
  rw [text, valueText, if_neg isWhole]
  exact read_literal_name (Double.literal_text false m) unit

/-- The text of an interval that can be made is read as an interval of the same unit. The number of
units is equal exactly up to `2 ^ 63`, and beyond it it is read back as `2 ^ 63`. -/
theorem read_text_of_make {value : Double} {unit : TimeUnit} {i : Interval}
    (made : make value unit = .ok i) : ∃ j, read i.text = .ok j ∧ j.unit = unit ∧
      (j.value.same value = true ↔ value.le shownBound = true) ∧
      (shownBound.lt value = true → j.value.same shownBound = true) := by
  obtain ⟨rfl, negative, m, rfl, unsigned⟩ := exists_of_make made
  have place : (Double.finite negative m).place = some (m.count : Int) := by
    cases negative with
    | false => rfl
    | true =>
      have zero := unsigned rfl
      simp [Double.place, Double.signed, zero]
  obtain ⟨j, reads, sameUnit, shown⟩ : ∃ j, read (text ⟨.finite negative m, unit⟩) = .ok j ∧
      j.unit = unit ∧ j.value.place = some ((min m.count (2 ^ 63 * Grid.one) : Nat) : Int) := by
    by_cases whole : m.count % Grid.one = 0
    · exact ⟨_, read_text_of_whole unit unsigned whole, rfl, place_of_shown whole⟩
    · obtain rfl : negative = false := by
        rw [Bool.eq_false_iff]
        intro minus
        rw [unsigned minus, Nat.zero_mod] at whole
        exact whole rfl
      refine ⟨_, read_text_of_part unit whole, rfl, ?_⟩
      rw [place, Nat.min_eq_left (Nat.le_of_lt (lt_shownBound_of_not_whole whole))]
  have equal : ∀ {x : Double} {n : Nat}, x.place = some (n : Int) →
      (j.value.same x = true ↔ min m.count (2 ^ 63 * Grid.one) = n) := by
    intro x n there
    rw [Double.same_iff, shown, there]
    constructor
    · rintro ⟨a, first, second⟩
      exact Int.ofNat.inj (Option.some.inj (first.trans second.symm))
    · rintro rfl
      exact ⟨_, rfl, rfl⟩
  refine ⟨j, reads, sameUnit, ?_, ?_⟩
  · rw [equal place, Double.le_iff_of_place place place_shownBound, Int.ofNat_le]
    exact ⟨fun least => least ▸ Nat.min_le_right _ _, Nat.min_eq_left⟩
  · rw [equal place_shownBound, Double.lt_iff_of_place place_shownBound place, Int.ofNat_lt]
    exact fun beyond => Nat.min_eq_right (Nat.le_of_lt beyond)

/-- Two and a half hours are shown with their place. -/
theorem read_text_of_two_and_a_half_hours :
    let i : Interval := ⟨.ofDecimal false ⟨25, -1⟩, .hour⟩
    make i.value .hour = .ok i ∧ i.text = "2.5hour" ∧
      ∃ j, read i.text = .ok j ∧ j.unit = .hour ∧ j.value.same i.value = true := by
  intro i
  have made : make i.value .hour = .ok i := by decide +kernel
  have within : i.value.le shownBound = true := by decide +kernel
  obtain ⟨j, reads, unit, equal, -⟩ := read_text_of_make made
  exact ⟨made, by decide +kernel, j, reads, unit, equal.2 within⟩

/-- Many units are not read back: ten to the nineteenth seconds are shown as the largest integer of
64 bits, which is read as `2 ^ 63`. -/
theorem text_of_many_seconds_is_clamped :
    let i : Interval := ⟨.ofNat (10 ^ 19), .second⟩
    make i.value .second = .ok i ∧ i.text = "9223372036854775807second" ∧
      read i.text = .ok ⟨shownBound, .second⟩ ∧ shownBound.same i.value = false := by
  decide +kernel

end Interval

end Vigil
