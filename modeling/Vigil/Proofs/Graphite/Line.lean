import Mathlib.Algebra.Group.Int.Defs
import Vigil.Graphite.Record
import Vigil.Proofs.Text.Pieces

/-!
# Lines of the render service

What a line must look like to be a record, said without the reader: the target, three
integers in front of the first bar, each after a comma, and after the bar the values between
commas. The target may hold commas, the texts of the integers may not. The reader accepts
exactly these lines, each as its one record, and tells the two ways apart in which a line
may fail.
-/

namespace Vigil.Graphite

/-- An unsigned numeral: at least one digit, and nothing but digits. -/
def IsNumeral (digits : List Char) : Prop := digits ≠ [] ∧ ∀ c ∈ digits, c.isDigit = true

/-- The range of signed 64-bit integers. -/
def InRange (value : Int) : Prop := -(2 ^ 63) ≤ value ∧ value < 2 ^ 63

/-- The texts that write an integer of the signed 64-bit range: a numeral with an optional sign. -/
inductive WritesInteger : List Char → Int → Prop where
  | unsigned {digits : List Char} (numeral : IsNumeral digits)
      (fits : InRange (Decimal.ofDigits digits)) :
      WritesInteger digits (Decimal.ofDigits digits)
  | positive {digits : List Char} (numeral : IsNumeral digits)
      (fits : InRange (Decimal.ofDigits digits)) :
      WritesInteger ('+' :: digits) (Decimal.ofDigits digits)
  | negative {digits : List Char} (numeral : IsNumeral digits)
      (fits : InRange (-Decimal.ofDigits digits)) :
      WritesInteger ('-' :: digits) (-Decimal.ofDigits digits)

/-- The value of a token: none if it is no number, and none if it is a number that the policy takes
for a gap. -/
def valueOf? (policy : GapPolicy) (token : List Char) : Option Double :=
  match Double.read (Text.trim token) with
  | none => none
  | some x => if policy.ignoreGaps = true ∧ x.same policy.gapValue = true then none else some x

/-- The lines that write a record. -/
inductive Written (policy : GapPolicy) : List Char → Record → Prop where
  | line {target start stop step : List Char} {tokens : List (List Char)} {first last pace : Int}
      (bars : '|' ∉ target ∧ '|' ∉ start ∧ '|' ∉ stop ∧ '|' ∉ step)
      (commas : ',' ∉ start ∧ ',' ∉ stop ∧ ',' ∉ step)
      (begins : WritesInteger (Text.trim start) first)
      (ends : WritesInteger (Text.trim stop) last)
      (paces : WritesInteger (Text.trim step) pace)
      (nonempty : tokens ≠ []) (separated : ∀ token ∈ tokens, ',' ∉ token) :
      Written policy
        (target ++ ',' :: (start ++ ',' :: (stop ++ ',' ::
          (step ++ '|' :: [','].intercalate tokens))))
        ⟨String.ofList target, first, last, pace, tokens.filterMap (valueOf? policy)⟩

/-- The integer that digits write behind a sign. -/
def signed (negative : Bool) (digits : List Char) : Int :=
  if negative then -Decimal.ofDigits digits else Decimal.ofDigits digits

/-- What is read behind a sign: a numeral whose integer is in range. -/
theorem readSigned_eq_some_iff (negative : Bool) (digits : List Char) (value : Int) :
    (if digits.isEmpty ∨ digits.any (fun c => !c.isDigit) then none
      else if -9223372036854775808 ≤ signed negative digits ∧
          signed negative digits ≤ 9223372036854775807 then some (signed negative digits)
        else none) = some value ↔
      IsNumeral digits ∧ InRange (signed negative digits) ∧ signed negative digits = value := by
  have shape : (digits.isEmpty = true ∨ digits.any (fun c => !c.isDigit) = true) ↔
      ¬IsNumeral digits := by
    simp only [IsNumeral, List.isEmpty_iff, List.any_eq_true, Bool.not_eq_true']
    grind
  have range : (-9223372036854775808 ≤ signed negative digits ∧
      signed negative digits ≤ 9223372036854775807) ↔ InRange (signed negative digits) := by
    unfold InRange
    omega
  by_cases numeral : IsNumeral digits
  · rw [if_neg fun bad => shape.1 bad numeral]
    by_cases fits : InRange (signed negative digits)
    · rw [if_pos (range.2 fits)]
      simp [numeral, fits]
    · rw [if_neg fun good => fits (range.1 good)]
      simp [fits]
  · rw [if_pos (shape.2 numeral)]
    simp [numeral]

/-- A sign is no digit. -/
theorem not_isNumeral_sign {c : Char} (sign : c = '-' ∨ c = '+') (rest : List Char) :
    ¬IsNumeral (c :: rest) := by
  intro numeral
  have digit := numeral.2 c List.mem_cons_self
  rcases sign with rfl | rfl <;> exact absurd digit (by decide)

/-- An integer is read from exactly the texts that write it. -/
theorem readInteger_eq_some_iff (text : List Char) (value : Int) :
    readInteger text = some value ↔ WritesInteger text value := by
  unfold readInteger
  split
  rename_i negative digits sign
  refine (readSigned_eq_some_iff negative digits value).trans ⟨?_, fun written => ?_⟩
  · rintro ⟨numeral, fits, rfl⟩
    split at sign
    · cases sign
      exact .negative numeral fits
    · cases sign
      exact .positive numeral fits
    · cases sign
      exact .unsigned numeral fits
  · cases written with
    | negative numeral fits =>
      cases sign
      exact ⟨numeral, fits, rfl⟩
    | positive numeral fits =>
      cases sign
      exact ⟨numeral, fits, rfl⟩
    | unsigned numeral fits =>
      split at sign
      · exact absurd numeral (not_isNumeral_sign (.inl rfl) _)
      · exact absurd numeral (not_isNumeral_sign (.inr rfl) _)
      · cases sign
        exact ⟨numeral, fits, rfl⟩

/-- The metadata is cut at its last three commas. -/
theorem metadata?_eq_some_iff (text target start stop step : List Char) :
    Record.metadata? text = some (target, start, stop, step) ↔
      text = target ++ ',' :: (start ++ ',' :: (stop ++ ',' :: step)) ∧
        ',' ∉ start ∧ ',' ∉ stop ∧ ',' ∉ step := by
  constructor
  · intro found
    simp only [Record.metadata?, Option.bind_eq_bind, Option.bind_eq_some_iff, Prod.exists,
      Option.pure_def, Option.some.injEq, Prod.mk.injEq, Text.splitLast_eq_some_iff] at found
    obtain ⟨first, _, ⟨rfl, noStep⟩, second, _, ⟨rfl, noStop⟩, third, _, ⟨rfl, noStart⟩, rfl, rfl,
      rfl, rfl⟩ := found
    exact ⟨by simp, noStart, noStop, noStep⟩
  · rintro ⟨rfl, noStart, noStop, noStep⟩
    have cutStep := Text.splitLast_append (target ++ ',' :: (start ++ ',' :: stop)) noStep
    have cutStop := Text.splitLast_append (target ++ ',' :: start) noStop
    have cutStart := Text.splitLast_append target noStart
    simp only [List.append_assoc, List.cons_append] at cutStep cutStop
    simp [Record.metadata?, cutStep, cutStop, cutStart]

/-- The value of a token, read first and held against the policy then. -/
theorem valueOf?_eq_filter (policy : GapPolicy) (token : List Char) :
    valueOf? policy token = (Double.read (Text.trim token)).filter policy.keeps := by
  unfold valueOf?
  cases Double.read (Text.trim token) with
  | none => rfl
  | some x =>
    by_cases gap : policy.ignoreGaps = true ∧ x.same policy.gapValue = true
    · simp [gap, GapPolicy.keeps, Option.filter]
    · simp [gap, GapPolicy.keeps, Option.filter]

/-- The values behind a bar are those of the tokens between commas. -/
theorem readValues_intercalate (policy : GapPolicy) {tokens : List (List Char)}
    (nonempty : tokens ≠ []) (separated : ∀ token ∈ tokens, ',' ∉ token) :
    Record.readValues policy ([','].intercalate tokens) = tokens.filterMap (valueOf? policy) := by
  have trimmed : (Text.splitAt ',' (Text.trimEnd ([','].intercalate tokens))).map Text.trim =
      tokens.map Text.trim := by
    rw [Text.map_trim_splitAt_trimEnd (by decide), Text.splitAt_intercalate separated nonempty]
  calc Record.readValues policy ([','].intercalate tokens)
      = (((Text.splitAt ',' (Text.trimEnd ([','].intercalate tokens))).map Text.trim).filterMap
          Double.read).filter policy.keeps := by rw [List.filterMap_map]; rfl
    _ = ((tokens.map Text.trim).filterMap Double.read).filter policy.keeps := by rw [trimmed]
    _ = tokens.filterMap (valueOf? policy) := by
      rw [List.filterMap_map, List.filter_filterMap]
      congr 1
      funext token
      rw [valueOf?_eq_filter, Function.comp_apply]

/-- What the parts in front of and behind the first bar make. -/
theorem ofParts?_eq_some_iff (policy : GapPolicy) (head data : List Char) (record : Record) :
    Record.ofParts? policy head data = some record ↔
      ∃ target start stop step first last pace,
        (head = target ++ ',' :: (start ++ ',' :: (stop ++ ',' :: step)) ∧
          ',' ∉ start ∧ ',' ∉ stop ∧ ',' ∉ step) ∧
        WritesInteger (Text.trim start) first ∧
        WritesInteger (Text.trim stop) last ∧
        WritesInteger (Text.trim step) pace ∧
        record = ⟨String.ofList target, first, last, pace, Record.readValues policy data⟩ := by
  simp only [Record.ofParts?, Option.bind_eq_bind, Option.bind_eq_some_iff, Prod.exists,
    Option.pure_def, Option.some.injEq, metadata?_eq_some_iff, readInteger_eq_some_iff]
  constructor
  · rintro ⟨target, start, stop, step, cut, first, begins, last, ends, pace, paces, rfl⟩
    exact ⟨target, start, stop, step, first, last, pace, cut, begins, ends, paces, rfl⟩
  · rintro ⟨target, start, stop, step, first, last, pace, cut, begins, ends, paces, rfl⟩
    exact ⟨target, start, stop, step, cut, first, begins, last, ends, pace, paces, rfl⟩

/-- A line writes a record exactly when its parts around the first bar make it. -/
theorem written_iff (policy : GapPolicy) (line : List Char) (record : Record) :
    Written policy line record ↔
      ∃ head data, Text.splitFirst '|' line = some (head, data) ∧
        Record.ofParts? policy head data = some record := by
  constructor
  · rintro ⟨bars, commas, begins, ends, paces, nonempty, separated⟩
    rename_i target start stop step tokens first last pace
    refine ⟨target ++ ',' :: (start ++ ',' :: (stop ++ ',' :: step)), [','].intercalate tokens,
      Text.splitFirst_eq_some_iff.2 ⟨by simp, by simpa using bars⟩,
      (ofParts?_eq_some_iff policy _ _ _).2 ⟨target, start, stop, step, first, last, pace,
        ⟨rfl, commas⟩, begins, ends, paces, ?_⟩⟩
    rw [readValues_intercalate policy nonempty separated]
  · rintro ⟨head, data, cut, found⟩
    obtain ⟨rfl, bar⟩ := Text.splitFirst_eq_some_iff.1 cut
    obtain ⟨target, start, stop, step, first, last, pace, ⟨rfl, commas⟩, begins, ends, paces,
      rfl⟩ := (ofParts?_eq_some_iff policy _ _ _).1 found
    obtain ⟨tokens, rfl, nonempty, separated⟩ := Text.exists_pieces ',' data
    rw [readValues_intercalate policy nonempty separated]
    have written : Written policy _ _ :=
      .line (by simpa using bar) commas begins ends paces nonempty separated
    simpa using written

/-- A line is read as a record exactly when it writes it. -/
theorem read_eq_ok_iff (policy : GapPolicy) (line : List Char) (record : Record) :
    Record.read policy line = .ok record ↔ Written policy line record := by
  rw [written_iff, Record.read]
  constructor
  · intro accepted
    split at accepted
    · cases accepted
    · rename_i head data cut
      split at accepted
      · cases accepted
      · rename_i found
        cases accepted
        exact ⟨head, data, cut, found⟩
  · rintro ⟨head, data, cut, found⟩
    simp only [cut, found]

/-- The reader is exact: it reads a line as a record exactly when the line writes it, and refuses
the others, for their metadata where there is a bar and for the missing bar where there is none. -/
theorem read_iff_written (policy : GapPolicy) (line : List Char) :
    (∀ record, Record.read policy line = .ok record ↔ Written policy line record) ∧
      ∀ fault, Record.read policy line = .error fault ↔
        (∀ record, ¬Written policy line record) ∧
          fault = if '|' ∈ line then .metadata (preview line)
            else .separatorMissing (preview line) := by
  refine ⟨read_eq_ok_iff policy line, fun fault => ?_⟩
  simp only [← read_eq_ok_iff]
  cases outcome : Record.read policy line with
  | ok record => simp
  | error reason =>
    have reported : reason =
        if '|' ∈ line then .metadata (preview line) else .separatorMissing (preview line) := by
      unfold Record.read at outcome
      split at outcome
      · rename_i cut
        cases outcome
        rw [if_neg (Text.splitFirst_eq_none_iff.1 cut)]
      · rename_i head data cut
        have bar : '|' ∈ line := by simp [(Text.splitFirst_eq_some_iff.1 cut).1]
        split at outcome
        · cases outcome
          rw [if_pos bar]
        · cases outcome
    simp [reported, eq_comm]

example : Record.read ⟨.ofNat 0, true⟩ "a,b, 1,+2,-3|0,x, 4 ".toList =
    .ok ⟨"a,b", 1, 2, -3, [.ofNat 4]⟩ := by decide +kernel

end Vigil.Graphite
