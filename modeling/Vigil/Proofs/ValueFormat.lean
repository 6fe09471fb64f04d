import Vigil.Proofs.Decimal.Literal
import Vigil.Proofs.Double.Sign
import Vigil.ValueFormat

/-!
# Shown values

A value is shown as a literal and the name of a unit, or as a literal alone. The literal is a plain
one where the value is shown in ones, and then it is the value. Otherwise it is the quotient of the
value and the size of its unit with one place, and a place that is zero is left out. Rules know the
units of all formats but milliseconds by their names, with the same sizes.
-/

namespace Vigil

attribute [local irreducible] Grid.quantumBits

namespace Double

/-- A finite number times one is the number. -/
theorem finite_mul_one (negative : Bool) (m : Magnitude) :
    .finite negative m * (1 : Double) = .finite negative m := by
  have rounded := finite_mul_whole negative m (Grid.held_of_le (n := 1) (by decide))
  rw [← literal_eq_whole, Nat.mul_one] at rounded
  obtain ⟨count, fits, below⟩ := m
  have exact := ofRatio_of_fits negative fits below Nat.one_pos
  rw [Nat.one_mul] at exact
  exact rounded.trans exact

/-- What exceeds a number without a sign has none. -/
theorem eq_false_of_lt {unit m : Magnitude} {negative : Bool}
    (above : (finite false unit).lt (.finite negative m) = true) : negative = false := by
  cases negative with
  | false => rfl
  | true =>
    have order := (lt_iff_of_place (x := .finite false unit) (y := .finite true m) rfl rfl).1 above
    simp only [signed, if_true, Bool.false_eq_true, if_false] at order
    omega

/-- What does not exceed one has no more quanta than one. -/
theorem count_le_of_not_lt {m : Magnitude} (within : (1 : Double).lt (.finite false m) = false) :
    m.count ≤ Grid.one := by
  have place : (1 : Double).place = some ((1 * Grid.one : Nat) : Int) :=
    place_whole false (Grid.held_of_le (by decide))
  rw [← Bool.not_eq_true, lt_iff_of_place place (y := .finite false m) rfl] at within
  simp only [signed, Bool.false_eq_true, if_false, Nat.one_mul, Int.ofNat_lt] at within
  exact Nat.le_of_not_lt within

/-- A quotient that a finite number bounds is finite. -/
theorem exists_quotient {m unit : Magnitude} (top : Magnitude) (pos : 0 < unit.count)
    (within : m.count * Grid.one ≤ unit.count * top.count) :
    ∃ q, Double.finite false m / .finite false unit = .finite false q := by
  have divided : Double.finite false m / .finite false unit =
      ofRatio false (m.count * Grid.one) unit.count := by
    change div _ _ = _
    simp only [div, if_neg (Nat.ne_of_gt pos), bne_self_eq_false]
  have below : Grid.nearest (m.count * Grid.one) unit.count < Grid.bound :=
    Nat.lt_of_le_of_lt (Grid.nearest_le top.fits pos within) top.below
  exact ⟨_, divided.trans (dif_pos below)⟩

/-- A finite number from one on has no sign, and its count is at least that of one. -/
theorem exists_of_isUnitOrMore {x : Double} (finite : x.isFinite = true)
    (large : x.isUnitOrMore = true) : ∃ m, x = .finite false m ∧ Grid.one ≤ m.count := by
  cases x with
  | nan => cases finite
  | infinite negative => cases finite
  | finite negative m =>
    simp only [isUnitOrMore, Bool.and_eq_true, Bool.not_eq_true', decide_eq_true_eq] at large
    obtain ⟨rfl, least⟩ := large
    exact ⟨m, rfl, least⟩

end Double

namespace ValueFormat

/-! ## Numbers -/

/-- A place that is zero is left out with its point. -/
theorem trimPlaces_of_zero {digits : List Char} (ascii : ∀ c ∈ digits, c.isDigit = true) :
    trimPlaces (digits ++ ['.', '0']) = digits := by
  have stops : digits.reverse.dropWhile (· = '.') = digits.reverse := by
    cases last : digits.reverse with
    | nil => rfl
    | cons c rest =>
      have digit := ascii c (List.mem_reverse.1 (last ▸ List.mem_cons_self))
      refine List.dropWhile_cons_of_neg ?_
      rw [decide_eq_true_eq]
      rintro rfl
      cases digit
  simp [trimPlaces, stops]

/-- Any other place stays. -/
theorem trimPlaces_of_digit (text : List Char) {c : Char} (digit : c.isDigit = true)
    (nonzero : c ≠ '0') : trimPlaces (text ++ [c]) = text ++ [c] := by
  have noPoint : c ≠ '.' := by
    rintro rfl
    cases digit
  simp [trimPlaces, nonzero, noPoint]

/-- Without the zero and the point at its end, a number with one place is a literal of the same
number. -/
theorem literal_trimPlaces (m : Magnitude) :
    Double.Literal false (.ofDecimal false ⟨Double.roundParts m 10, -1⟩)
      (trimPlaces (Double.tenths (.finite false m))) := by
  generalize parts : Double.roundParts m 10 = n
  have shown : Double.tenths (.finite false m) =
      Decimal.numeral (n / 10) ++ '.' :: Decimal.numeral (n % 10) := by
    rw [← parts]
    rfl
  have single : Decimal.numeral (n % 10) = [(n % 10).digitChar] :=
    Nat.toDigits_of_lt_base (Nat.mod_lt _ (by decide))
  have ascii : ∀ c ∈ Decimal.numeral (n / 10), c.isDigit = true := fun c member =>
    Decimal.isDigit_of_mem_numeral member
  by_cases whole : n % 10 = 0
  · have trimmed : trimPlaces (Double.tenths (.finite false m)) = Decimal.numeral (n / 10) := by
      rw [shown, single, whole]
      exact trimPlaces_of_zero ascii
    rw [trimmed]
    refine ⟨Decimal.numeral (n / 10), none, rfl, Decimal.numeral_ne_nil _, by simpa using ascii, ?_⟩
    exact Decimal.ofDecimal_congr (Decimal.value_ofWritten_whole whole) false
  · have kept : trimPlaces (Double.tenths (.finite false m)) = Double.tenths (.finite false m) := by
      have digit : (n % 10).digitChar.isDigit = true := by
        apply Decimal.isDigit_of_mem_numeral (n := n % 10)
        rw [single]
        exact List.mem_singleton_self _
      have nonzero : (n % 10).digitChar ≠ '0' := by
        intro zero
        have named := Decimal.ofDigits_numeral (n % 10)
        rw [single, zero] at named
        exact whole named.symm
      have split : Decimal.numeral (n / 10) ++ '.' :: [(n % 10).digitChar] =
          (Decimal.numeral (n / 10) ++ ['.']) ++ [(n % 10).digitChar] := by simp
      rw [shown, single, split]
      exact trimPlaces_of_digit _ digit nonzero
    rw [kept, ← parts]
    exact Double.literal_tenths false m

/-- A short whole number is a literal of an equal number when it is written as an integer. Zero
alone loses its sign, and it has the same place with either one. -/
theorem exists_literal_integer (negative : Bool) {n : Nat} (short : n ≤ 2 ^ 53) :
    ∃ (sign : Bool) (size : Magnitude),
      Double.Literal sign (.finite false size)
          (Decimal.integer (Double.whole negative n).toInt64) ∧
        (Double.finite sign size).same (.whole negative n) = true := by
  have held := Grid.held_of_le short
  have literal := Double.literal_integer (Double.whole negative n).toInt64
  have size : (Double.whole negative n).toInt64.natAbs = n := by
    rw [Double.toInt64_whole negative short]
    cases negative <;> simp
  rw [size, Double.whole_of_held false held] at literal
  refine ⟨_, _, literal, ?_⟩
  rw [Double.same_iff, Double.place_whole negative held, Double.toInt64_whole negative short]
  refine ⟨_, rfl, ?_⟩
  rcases Nat.eq_zero_or_pos n with rfl | pos
  · cases negative <;> simp [Double.signed]
  · cases negative <;> simp [Double.signed, pos]

/-- A plain finite number is a literal of an equal number. -/
theorem exists_literal_plain (negative : Bool) (m : Magnitude) :
    ∃ (sign : Bool) (size : Magnitude),
      Double.Literal sign (.finite false size) (plain (.finite negative m)).toList ∧
        (Double.finite sign size).same (.finite negative m) = true := by
  unfold plain
  rw [String.toList_ofList]
  split
  · rename_i short
    rw [Bool.and_eq_true] at short
    obtain ⟨whole, bounded⟩ := short
    have limit : Grid.Held 1000000000000000 := Grid.held_of_le (by decide)
    obtain ⟨sign, size, same, below⟩ := Double.exists_of_abs_lt limit bounded
    cases same
    have count : m.count / Grid.one * Grid.one = m.count :=
      Nat.div_mul_cancel (Nat.dvd_of_mod_eq_zero (of_decide_eq_true whole))
    generalize m.count / Grid.one = n at count
    have fewer : n < 1000000000000000 := by
      rw [← count] at below
      exact Nat.lt_of_mul_lt_mul_right below
    have shorter : n ≤ 2 ^ 53 := by omega
    have number : Double.finite negative m = .whole negative n := by
      rw [Double.whole_of_held negative (Grid.held_of_le shorter)]
      simp only [count]
    rw [number]
    exact exists_literal_integer negative shorter
  · exact ⟨negative, m, Double.literal_text negative m, Double.same_self Double.noConfusion⟩

/-! ## Units -/

/-- The unit in which a format shows a value: the first one that the value exceeds. -/
def unit? (f : ValueFormat) (value : Double) : Option MagnitudeUnit :=
  f.units.find? fun unit => unit.size.lt value

/-- The value is shown in ones: without a unit, or in a unit of the size one. -/
def inOnes (f : ValueFormat) (value : Double) : Bool :=
  (f.unit? value).all fun unit => unit.size.same 1

/-- The name of the unit that is shown, if there is one. -/
def unitName (f : ValueFormat) (value : Double) : String :=
  ((f.unit? value).map (·.name)).getD ""

/-- The number that is shown, as it stands before the name of the unit. -/
def shownNumber (f : ValueFormat) (value : Double) : List Char :=
  match f.unit? value with
  | none => (plain value).toList
  | some unit =>
      if unit.size.same 1 then (plain value).toList else trimPlaces (value / unit.size).tenths

/-- In ones the plain number is shown. -/
theorem shownNumber_of_inOnes {f : ValueFormat} {value : Double} (ones : f.inOnes value = true) :
    f.shownNumber value = (plain value).toList := by
  unfold shownNumber inOnes at *
  cases found : f.unit? value with
  | none => rfl
  | some unit =>
    rw [found, Option.all_some] at ones
    exact if_pos ones

/-- In a unit of another size the quotient is shown with its place, unless this is zero. -/
theorem shownNumber_of_unit? {f : ValueFormat} {value : Double} {unit : MagnitudeUnit}
    (shown : f.unit? value = some unit) (scaled : f.inOnes value = false) :
    f.shownNumber value = trimPlaces (value / unit.size).tenths := by
  unfold shownNumber inOnes at *
  rw [shown, Option.all_some] at scaled
  rw [shown]
  exact if_neg (Bool.eq_false_iff.1 scaled)

/-- A value is shown as this number and the name of the unit. -/
theorem render_eq (f : ValueFormat) (value : Double) :
    f.render value = String.ofList (f.shownNumber value) ++ f.unitName value := by
  unfold render shownNumber unitName unit?
  cases f.units.find? fun unit => unit.size.lt value with
  | none => simp
  | some unit =>
    dsimp only
    split <;> simp

/-- Rules know the units of every format but milliseconds. -/
theorem units_subset {f : ValueFormat} (other : f ≠ .milliseconds) : f.units ⊆ ruleUnits := by
  intro unit listed
  cases f with
  | milliseconds => exact absurd rfl other
  | _ => simp_all [units, ruleUnits]

/-- No two units of rules have one name. -/
theorem factor?_of_mem {unit : MagnitudeUnit} (listed : unit ∈ ruleUnits) :
    factor? unit.name = some unit.size := by
  have each : ruleUnits.all (fun unit => factor? unit.name = some unit.size) = true := by
    decide +kernel
  exact of_decide_eq_true (List.all_eq_true.1 each unit listed)

/-- The unit that is shown is one of the format. -/
theorem mem_of_unit? {f : ValueFormat} {value : Double} {unit : MagnitudeUnit}
    (shown : f.unit? value = some unit) : unit ∈ f.units := List.mem_of_find?_eq_some shown

/-- The value exceeds the unit in which it is shown. -/
theorem lt_of_unit? {f : ValueFormat} {value : Double} {unit : MagnitudeUnit}
    (shown : f.unit? value = some unit) : unit.size.lt value = true := by
  simpa using List.find?_some shown

/-- A thousandth, the size of the only unit below one. -/
def thousandth : Magnitude :=
  ⟨Grid.nearest Grid.one 1000, Grid.fits_nearest _ _, by decide +kernel⟩

/-- Every unit of rules is finite, and one or more or else a thousandth. -/
theorem exists_size_of_mem {unit : MagnitudeUnit} (listed : unit ∈ ruleUnits) :
    ∃ size, unit.size = .finite false size ∧ (Grid.one ≤ size.count ∨ size = thousandth) := by
  have each : ruleUnits.all (fun unit => (unit.size.isFinite && unit.size.isUnitOrMore) ||
      unit.size = .finite false thousandth) = true := by
    decide +kernel
  have checked := List.all_eq_true.1 each unit listed
  simp only [Bool.or_eq_true, Bool.and_eq_true, decide_eq_true_eq] at checked
  rcases checked with ⟨finite, large⟩ | small
  · obtain ⟨size, positive, least⟩ := Double.exists_of_isUnitOrMore finite large
    exact ⟨size, positive, .inl least⟩
  · exact ⟨thousandth, small, .inr rfl⟩

/-- What exceeds one is shown in a unit of one or more. The unit of one second stands before that of
a thousandth. -/
theorem isUnitOrMore_of_unit? {f : ValueFormat} {value : Double}
    (large : (1 : Double).lt value = true) {unit : MagnitudeUnit}
    (shown : f.unit? value = some unit) : unit.size.isUnitOrMore = true := by
  have table : ∀ {units : List MagnitudeUnit},
      units.all (fun unit => unit.size.isUnitOrMore) = true → unit ∈ units →
        unit.size.isUnitOrMore = true := fun each listed => List.all_eq_true.1 each unit listed
  cases f with
  | seconds =>
    have split : secondUnits = secondUnits.take 7 ++ secondUnits.drop 7 :=
      (List.take_append_drop 7 secondUnits).symm
    rw [unit?, units, split, List.find?_append, Option.or_eq_some_iff] at shown
    rcases shown with early | ⟨none, -⟩
    · exact table (by decide +kernel) (List.mem_of_find?_eq_some early)
    · have missed := List.find?_eq_none.1 none ⟨"s", 1⟩ (by simp [secondUnits])
      exact absurd large missed
  | _ => exact table (by decide +kernel) (mem_of_unit? shown)

/-- The quotient of a finite value and the size of its unit is finite and has no sign. -/
theorem exists_quotient_of_unit? {f : ValueFormat} (other : f ≠ .milliseconds) {negative : Bool}
    {m : Magnitude} {unit : MagnitudeUnit} (shown : f.unit? (.finite negative m) = some unit) :
    ∃ q, .finite negative m / unit.size = .finite false q := by
  obtain ⟨size, finite, least⟩ := exists_size_of_mem (units_subset other (mem_of_unit? shown))
  have above := lt_of_unit? shown
  rw [finite] at above ⊢
  obtain rfl := Double.eq_false_of_lt above
  rcases least with least | rfl
  · refine Double.exists_quotient m (Nat.lt_of_lt_of_le Grid.one_pos least) ?_
    rw [Nat.mul_comm]
    exact Nat.mul_le_mul_right _ least
  · have below : thousandth.count < Grid.one := by decide +kernel
    have within : (1 : Double).lt (.finite false m) = false := by
      rw [Bool.eq_false_iff]
      intro large
      have more := isUnitOrMore_of_unit? large shown
      simp only [finite, Double.isUnitOrMore, Bool.and_eq_true, decide_eq_true_eq] at more
      omega
    refine Double.exists_quotient Double.wordTop (by decide +kernel) ?_
    calc
      m.count * Grid.one ≤ Grid.one * Grid.one :=
        Nat.mul_le_mul_right _ (Double.count_le_of_not_lt within)
      _ ≤ thousandth.count * Double.wordTop.count := by decide +kernel

end ValueFormat

end Vigil
