import Vigil.Proofs.Rule.Lexeme
import Vigil.Proofs.Rule.Reading
import Vigil.Proofs.ValueFormat

/-!
# Shown values are thresholds

What a format shows of a finite value can be written in a rule: it is a magnitude of the grammar, with
the unit of the format and the number that is shown. So the threshold of the rule is the value itself
where it is shown in ones, and the shown number of units otherwise. Milliseconds are excepted: rules
know their units as those of seconds.
-/

namespace Vigil

namespace Rule

open Token

/-! ## Scanning magnitudes -/

/-- A literal is scanned as a signed number. -/
theorem scanFrom_literal {negative : Bool} {size : Double} {text rest : List Char}
    {tokens : List Token} (literal : Double.Literal negative size text)
    (ends : Ends (.number size) rest) (others : ∀ place, scanFrom place rest = .ok tokens) :
    ∀ place, scanFrom place (text ++ rest) =
      .ok ((SignedNumber.mk negative size).tokens ++ tokens) := by
  obtain ⟨whole, places, rfl, nonempty, ascii, rfl⟩ := literal
  have inside : ∀ c ∈ Decimal.written whole places, inNumber c = true := by
    intro c member
    rcases Decimal.mem_written member with digit | rfl
    · simp [inNumber, ascii c digit]
    · rfl
  have reads := Double.read_written (List.append_ne_nil_of_left_ne_nil nonempty _) ascii false
  have unsigned := scanFrom_of_spells (.number inside reads) ends others
  cases negative with
  | false => exact unsigned
  | true =>
    have sign : Ends (.arithmetic .subtract) (Decimal.written whole places ++ rest) :=
      fun _ _ _ => rfl
    have signed := scanFrom_of_spells (.arithmetic .subtract) sign unsigned
    exact signed

/-- The names of units are words, and none of them is a connective. -/
theorem name_of_mem {unit : MagnitudeUnit} (listed : unit ∈ ValueFormat.ruleUnits) :
    unit.name.toList ≠ [] ∧ (∀ c ∈ unit.name.toList, inWord c = true) ∧
      ∀ connective : Connective, unit.name ≠ connective.keyword := by
  have each : ValueFormat.ruleUnits.all (fun unit => unit.name.toList ≠ [] &&
      unit.name.toList.all inWord && Connective.ofKeyword? unit.name = none) = true := by
    decide +kernel
  have checked := List.all_eq_true.1 each unit listed
  simp only [Bool.and_eq_true, decide_eq_true_eq] at checked
  obtain ⟨⟨nonempty, inside⟩, free⟩ := checked
  refine ⟨nonempty, List.all_eq_true.1 inside, fun connective keyword => ?_⟩
  rw [keyword, Connective.ofKeyword?_keyword] at free
  cases free

/-- A unit of the grammar is one of the table. -/
theorem UnitWord.exists_mem (unit : UnitWord) :
    ∃ listed ∈ ValueFormat.ruleUnits, unit.name = listed.name ∧ unit.factor = listed.size := by
  obtain ⟨listed, found, size⟩ := Option.map_eq_some_iff.1 unit.known
  have named : listed.name = unit.name := by simpa using List.find?_some found
  exact ⟨listed, List.mem_of_find?_eq_some found, named.symm, size.symm⟩

/-- A unit of the table is one of the grammar. -/
theorem exists_unitWord {unit : MagnitudeUnit} (listed : unit ∈ ValueFormat.ruleUnits) :
    ∃ word : UnitWord, word.name = unit.name ∧ word.factor = unit.size :=
  ⟨⟨unit.name, unit.size, ValueFormat.factor?_of_mem listed, (name_of_mem listed).2.2⟩, rfl, rfl⟩

/-- The text of a unit, if there is one. -/
def unitText (unit : Option UnitWord) : List Char := (unit.map (·.name.toList)).getD []

/-- The text of a unit is scanned as its word, and does not go on with a number in front of it. -/
theorem scanFrom_unitText (unit : Option UnitWord) (size : Double) :
    Ends (.number size) (unitText unit) ∧
      ∀ place, scanFrom place (unitText unit) = .ok (unitTokens unit) := by
  have nothing : ∀ place, scanFrom place [] = .ok [] := fun place => by rw [scanFrom]
  cases unit with
  | none => exact ⟨ends_nil _, nothing⟩
  | some unit =>
    obtain ⟨listed, member, name, -⟩ := unit.exists_mem
    obtain ⟨nonempty, inside, -⟩ := name_of_mem member
    rw [← name] at nonempty inside
    have text : unitText (some unit) = unit.name.toList := rfl
    rw [text]
    constructor
    · intro c more begins
      exact separate_inWord_inNumber c (inside c (begins ▸ List.mem_cons_self))
    · have spells := Spells.word nonempty inside
      rw [String.ofList_toList] at spells
      have last := scanFrom_of_spells spells (ends_nil _) nothing
      rwa [List.append_nil] at last

/-- A literal with a unit is scanned as a magnitude. -/
theorem scanFrom_magnitude (m : Magnitude) {text : List Char}
    (literal : Double.Literal m.number.negative m.number.size text) :
    ∀ place, scanFrom place (text ++ unitText m.unit) = .ok m.tokens :=
  scanFrom_literal literal (scanFrom_unitText m.unit _).1 (scanFrom_unitText m.unit m.number.size).2

/-- A level and a comparator are scanned in front of what follows them. -/
theorem scan_critical {text : String} {tokens : List Token}
    (scanned : ∀ place, scanFrom place text.toList = .ok tokens) :
    scan ("critical: > " ++ text) =
      .ok (.word "critical" :: .colon :: .comparator .greater :: tokens) := by
  have gap : ∀ {rest tokens}, (∀ place, scanFrom place rest = .ok tokens) →
      ∀ place, scanFrom place (' ' :: rest) = .ok tokens := by
    intro rest tokens others place
    rw [scanFrom, if_pos (by decide), others]
  have spells : Spells (.word "critical") "critical".toList :=
    .word (by decide) (List.all_eq_true.1 (by decide))
  have blank : Ends (.comparator .greater) (' ' :: text.toList) := by
    rintro c more ⟨⟩
    rfl
  have compared := scanFrom_of_spells (.comparator .greater) blank (gap scanned)
  have parted := scanFrom_of_spells .colon (fun _ _ _ => rfl) (gap compared)
  have whole := scanFrom_of_spells spells (by rintro c more ⟨⟩; rfl) parted 0
  rw [scan, String.toList_append]
  exact whole

/-- A magnitude after a level and a comparator makes a rule. -/
theorem read_of_magnitude (m : Magnitude) {text : String}
    (scanned : ∀ place, scanFrom place text.toList = .ok m.tokens) :
    let raw := "critical: > " ++ text
    read raw = .ok ⟨.critical, ⟨.greater, .value m.value, .unchanged⟩, [], raw⟩ := by
  intro raw
  let phrase : Phrase :=
    { level := .critical
      reported := by decide
      head := ⟨.greater, .magnitude m, none⟩
      chain := [] }
  have derived : scan raw = .ok phrase.tokens := by
    rw [scan_critical scanned]
    simp [phrase, Phrase.tokens, ComparisonPhrase.tokens, ThresholdPhrase.tokens, changeTokens,
      chainTokens, Level.name]
  exact (read_eq_ok_iff raw _).2 ⟨phrase, derived, rfl⟩

end Rule

namespace ValueFormat

/-- A magnitude of the grammar is what a format shows of a value. Its unit is the one of the format,
which rules know with the same size, and its number is read from the number that is shown. Where the
value is shown in ones, this is the plain number, and the magnitude is equal to the value. Otherwise
it is the quotient of the value and the size of the unit with one place, and without this place it is
read as with it. -/
structure Shows (f : ValueFormat) (value : Double) (m : Rule.Magnitude) : Prop where
  tokens : Token.scan (f.render value) = .ok m.tokens
  unit : (m.unit.map fun word => (⟨word.name, word.factor⟩ : MagnitudeUnit)) = f.unit? value
  factor : ∀ unit, f.unit? value = some unit → factor? unit.name = some unit.size
  text : f.render value = String.ofList (f.shownNumber value) ++ f.unitName value
  number : Double.read (f.shownNumber value) = some m.number.value
  plain : f.inOnes value = true →
    f.shownNumber value = (ValueFormat.plain value).toList ∧ m.value.same value = true
  scaled : ∀ unit, f.unit? value = some unit → f.inOnes value = false →
    f.shownNumber value = trimPlaces (value / unit.size).tenths ∧
      Double.read (value / unit.size).tenths = some m.number.value

/-- A unit of the size one is one exactly. -/
theorem size_eq_one_of_mem {unit : MagnitudeUnit} (listed : unit ∈ ruleUnits)
    (same : unit.size.same 1 = true) : unit.size = 1 := by
  have each : ruleUnits.all (fun unit => !unit.size.same 1 || unit.size = 1) = true := by
    decide +kernel
  simpa [same] using List.all_eq_true.1 each unit listed

/-- The unit that is shown is one of the grammar. -/
theorem exists_unit {f : ValueFormat} (other : f ≠ .milliseconds) (value : Double) :
    ∃ unit : Option Rule.UnitWord,
      (unit.map fun word => (⟨word.name, word.factor⟩ : MagnitudeUnit)) = f.unit? value ∧
        Rule.unitText unit = (f.unitName value).toList := by
  cases found : f.unit? value with
  | none => exact ⟨none, rfl, by simp [unitName, found, Rule.unitText]⟩
  | some unit =>
    obtain ⟨word, name, factor⟩ := Rule.exists_unitWord (units_subset other (mem_of_unit? found))
    refine ⟨some word, by simp [name, factor], ?_⟩
    simp [unitName, found, Rule.unitText, name]

/-- Where the number that is shown is a literal, the text is a magnitude with this number. -/
theorem exists_magnitude {f : ValueFormat} (other : f ≠ .milliseconds) {value : Double}
    (number : Rule.SignedNumber)
    (literal : Double.Literal number.negative number.size (f.shownNumber value)) :
    ∃ m : Rule.Magnitude, m.number = number ∧
      (m.unit.map fun word => (⟨word.name, word.factor⟩ : MagnitudeUnit)) = f.unit? value ∧
      ∀ place, Token.scanFrom place (f.render value).toList = .ok m.tokens := by
  obtain ⟨unit, units, name⟩ := exists_unit other value
  refine ⟨⟨number, unit⟩, rfl, units, ?_⟩
  rw [render_eq, String.toList_append, String.toList_ofList, ← name]
  exact Rule.scanFrom_magnitude ⟨number, unit⟩ literal

/-- The value of a magnitude whose unit is one, or which has none, is its number. -/
theorem value_of_inOnes {f : ValueFormat} (other : f ≠ .milliseconds) {value : Double}
    (ones : f.inOnes value = true) {m : Rule.Magnitude}
    (units : (m.unit.map fun word => (⟨word.name, word.factor⟩ : MagnitudeUnit)) = f.unit? value)
    {negative : Bool} {size : Magnitude} (number : m.number.value = .finite negative size) :
    m.value = .finite negative size := by
  obtain ⟨signed, unit⟩ := m
  cases unit with
  | none => exact number
  | some word =>
    have shown : f.unit? value = some ⟨word.name, word.factor⟩ := units.symm
    have one : word.factor = 1 := by
      refine size_eq_one_of_mem (units_subset other (mem_of_unit? shown)) ?_
      rwa [inOnes, shown, Option.all_some] at ones
    change signed.value * word.factor = _
    rw [one, number, Double.finite_mul_one]

/-- The unit that is shown is known to rules with its size. -/
theorem factor?_of_unit? {f : ValueFormat} (other : f ≠ .milliseconds) {value : Double} :
    ∀ unit, f.unit? value = some unit → factor? unit.name = some unit.size :=
  fun _ shown => factor?_of_mem (units_subset other (mem_of_unit? shown))

/-- A value that is shown in ones is shown by a magnitude. -/
theorem exists_shows_of_inOnes {f : ValueFormat} (other : f ≠ .milliseconds) {negative : Bool}
    {size : Magnitude} (ones : f.inOnes (.finite negative size) = true) :
    ∃ m : Rule.Magnitude, f.Shows (.finite negative size) m ∧
      ∀ place, Token.scanFrom place (f.render (.finite negative size)).toList = .ok m.tokens := by
  have text := shownNumber_of_inOnes ones
  obtain ⟨sign, shown, literal, equal⟩ := exists_literal_plain negative size
  rw [← text] at literal
  obtain ⟨m, number, units, scanned⟩ := exists_magnitude other ⟨sign, _⟩ literal
  have signed : m.number.value = .finite sign shown := by
    rw [number]
    cases sign <;> rfl
  refine ⟨m, ⟨scanned 0, units, factor?_of_unit? other, render_eq f _, ?_, ?_, ?_⟩, scanned⟩
  · rw [literal.read_eq, number]
    rfl
  · intro _
    rw [value_of_inOnes other ones units signed]
    exact ⟨text, equal⟩
  · intro _ _ scaled
    rw [ones] at scaled
    cases scaled

/-- A value that is shown in another unit is shown by a magnitude. The number with its place and the
trimmed one are literals of the same number. -/
theorem exists_shows_of_scaled {f : ValueFormat} (other : f ≠ .milliseconds) {negative : Bool}
    {size : Magnitude} (scaled : f.inOnes (.finite negative size) = false) :
    ∃ m : Rule.Magnitude, f.Shows (.finite negative size) m ∧
      ∀ place, Token.scanFrom place (f.render (.finite negative size)).toList = .ok m.tokens := by
  obtain ⟨unit, shown⟩ : ∃ unit, f.unit? (.finite negative size) = some unit := by
    cases found : f.unit? (.finite negative size) with
    | none => simp [inOnes, found] at scaled
    | some unit => exact ⟨unit, rfl⟩
  have text := shownNumber_of_unit? shown scaled
  obtain ⟨quotient, divided⟩ := exists_quotient_of_unit? other shown
  have places := (Double.literal_tenths false quotient).read_eq
  have literal := literal_trimPlaces quotient
  generalize Double.ofDecimal false ⟨Double.roundParts quotient 10, -1⟩ = count at literal places
  rw [← divided] at literal places
  rw [← text] at literal
  obtain ⟨m, number, units, scanned⟩ := exists_magnitude other ⟨false, count⟩ literal
  refine ⟨m, ⟨scanned 0, units, factor?_of_unit? other, render_eq f _, ?_, ?_, ?_⟩, scanned⟩
  · rw [literal.read_eq, number]
    rfl
  · intro ones
    rw [scaled] at ones
    cases ones
  · intro another again _
    cases shown.symm.trans again
    refine ⟨text, ?_⟩
    rw [places, number]
    rfl

/-- In every format but milliseconds, the text of a finite value is a magnitude of the grammar, and a
rule with it as its threshold is read. -/
theorem rule_of_render {f : ValueFormat} (other : f ≠ .milliseconds) {value : Double}
    (finite : value.isFinite = true) :
    ∃ m : Rule.Magnitude, f.Shows value m ∧
      let raw := "critical: > " ++ f.render value
      Rule.read raw = .ok ⟨.critical, ⟨.greater, .value m.value, .unchanged⟩, [], raw⟩ := by
  obtain ⟨negative, size, rfl⟩ : ∃ negative m, value = .finite negative m := by
    cases value with
    | nan => cases finite
    | infinite negative => cases finite
    | finite negative m => exact ⟨negative, m, rfl⟩
  cases ones : f.inOnes (.finite negative size) with
  | true =>
    obtain ⟨m, shows, scanned⟩ := exists_shows_of_inOnes other ones
    exact ⟨m, shows, Rule.read_of_magnitude m scanned⟩
  | false =>
    obtain ⟨m, shows, scanned⟩ := exists_shows_of_scaled other ones
    exact ⟨m, shows, Rule.read_of_magnitude m scanned⟩

/-- A value in thousands is shown with one place, and read as that many thousands. -/
theorem rule_of_render_thousands :
    ValueFormat.short ≠ .milliseconds ∧ (456789 : Double).isFinite = true ∧
      ValueFormat.short.render 456789 = "456.8K" ∧
      ∃ m : Rule.Magnitude, ValueFormat.short.Shows 456789 m ∧ m.value = 456800 := by
  have finite : (456789 : Double).isFinite = true := by decide +kernel
  have text : ValueFormat.short.render 456789 = "456.8K" := by decide +kernel
  obtain ⟨m, shows, reads⟩ := rule_of_render (f := .short) (by decide) finite
  rw [text] at reads
  have threshold : Rule.read ("critical: > " ++ "456.8K") =
      .ok ⟨.critical, ⟨.greater, .value 456800, .unchanged⟩, [], "critical: > 456.8K"⟩ := by
    decide +kernel
  refine ⟨by decide, finite, text, m, shows, ?_⟩
  simpa using reads.symm.trans threshold

end ValueFormat

end Vigil
