import Vigil.Proofs.Decimal.Nearest
import Vigil.Proofs.Double.Sign
import Vigil.Proofs.Interval.Spelling

/-!
# Accepted and refused intervals

A text is an interval exactly when it has the shape of one, its letters are the token or the name of
a unit, its number is a decimal with digits of ASCII, and this is not below zero: a minus sign is
left to decimals that are zero or are rounded to it. Of these conditions the first one that fails is
the reason of the refusal.
-/

namespace Vigil.Interval

namespace Shape

variable {text : List Char}

/-- The letters are the token or the long name of a unit. -/
def Names (s : Shape text) (unit : TimeUnit) : Prop :=
  s.letters = unit.token.toList ∨ s.letters = unit.name.toList

/-- There is a digit, and all digits are those of ASCII. -/
structure IsDecimal (s : Shape text) : Prop where
  nonempty : s.digits ≠ []
  ascii : ∀ c ∈ s.digits, c.isDigit = true

/-- The number that is nearest to the decimal. -/
def value (s : Shape text) : Double := .ofDecimal s.negative (.ofWritten s.whole s.places)

/-- The letters are read as the unit that they name. -/
theorem ofToken?_eq_some_iff {s : Shape text} {unit : TimeUnit} :
    TimeUnit.ofToken? (String.ofList s.letters) = some unit ↔ s.Names unit := by
  constructor
  · intro known
    obtain ⟨named, spelled⟩ := TimeUnit.exists_letters known
    cases named with
    | true => exact .inr spelled
    | false => exact .inl spelled
  · rintro (token | name)
    · rw [token, String.ofList_toList, TimeUnit.ofToken?_token]
    · rw [name, String.ofList_toList, TimeUnit.ofToken?_name]

/-- The number is read when it is a decimal, and as the nearest number. A digit that is read is one
of the shape, and so is the point. -/
theorem read_magnitude_iff {s : Shape text} {x : Double} :
    Double.read s.magnitude = some x ↔ s.IsDecimal ∧ x = s.value := by
  have decimal : s.IsDecimal → Double.read s.magnitude = some s.value := fun decimal =>
    Double.read_written decimal.nonempty decimal.ascii s.negative
  constructor
  · intro reads
    have plain : ∀ c ∈ Decimal.written s.whole s.places, c ≠ 'e' ∧ c ≠ 'E' := by
      intro c member
      have digit := s.solid c member
      constructor <;> (rintro rfl; exact absurd digit (by decide))
    have unsigned := reads
    rw [magnitude, Double.read_signText _ s.solid] at unsigned
    obtain ⟨whole, places, same, some, ascii⟩ := Double.exists_written_of_readUnsigned plain unsigned
    have proper : s.IsDecimal := by
      constructor
      · intro none
        obtain ⟨c, rest, first⟩ := List.exists_cons_of_ne_nil some
        have digit := ascii c (first ▸ List.mem_cons_self)
        have member : c ∈ Decimal.written s.whole s.places :=
          same ▸ Decimal.mem_written_of_digit (first ▸ List.mem_cons_self)
        rcases Decimal.mem_written member with inside | rfl
        · change c ∈ s.digits at inside
          rw [none] at inside
          cases inside
        · exact absurd digit (by decide)
      · intro c member
        have inside : c ∈ Decimal.written whole places :=
          same ▸ Decimal.mem_written_of_digit member
        rcases Decimal.mem_written inside with digit | rfl
        · exact ascii c digit
        · exact absurd (s.script '.' member) (by decide)
    refine ⟨proper, ?_⟩
    rw [decimal proper] at reads
    exact (Option.some.inj reads).symm
  · rintro ⟨proper, rfl⟩
    exact decimal proper

/-- The number is below zero when it has a minus sign and is not rounded to zero. -/
theorem value_lt_zero_iff (s : Shape text) :
    s.value.lt 0 = true ↔ s.negative = true ∧ s.value.same 0 = false := by
  rw [value, Double.ofDecimal_eq_ofRatio]
  exact Double.ofRatio_lt_zero_iff _ _ _

/-- A text of this shape is read by its unit, then by its number, and then by its sign. -/
theorem readChars_eq (s : Shape text) :
    readChars text =
      match TimeUnit.ofToken? (String.ofList s.letters) with
      | none => .error .unknownUnit
      | some unit =>
          match Double.read s.magnitude with
          | none => .error .magnitude
          | some value => if value.lt 0 then .error .negative else .ok ⟨value, unit⟩ := by
  unfold readChars
  exact s.parts?_eq ▸ rfl

end Shape

/-- Why a text is refused: the first condition of an interval that it does not meet. -/
inductive Refused (text : List Char) : IntervalFault → Prop where
  | shape (none : IsEmpty (Shape text)) : Refused text .shape
  | unknownUnit (s : Shape text) (unknown : ∀ unit, ¬s.Names unit) : Refused text .unknownUnit
  | magnitude (s : Shape text) {unit : TimeUnit} (known : s.Names unit) (other : ¬s.IsDecimal) :
      Refused text .magnitude
  | negative (s : Shape text) {unit : TimeUnit} (known : s.Names unit) (decimal : s.IsDecimal)
      (minus : s.negative = true) (nonzero : s.value.same 0 = false) : Refused text .negative

/-- What is read as an interval has its shape, a unit, a decimal, and no minus sign unless it is
zero. -/
theorem readChars_eq_ok_iff {text : List Char} {i : Interval} :
    readChars text = .ok i ↔ ∃ s : Shape text, s.Names i.unit ∧ s.IsDecimal ∧ i.value = s.value ∧
      (s.negative = true → i.value.same 0 = true) := by
  constructor
  · intro read
    cases parts : parts? text with
    | none =>
      rw [readChars, parts] at read
      cases read
    | some found =>
      obtain ⟨s, -⟩ := exists_shape parts
      rw [s.readChars_eq] at read
      split at read
      · cases read
      · rename_i unit known
        split at read
        · cases read
        · rename_i value number
          split at read
          · cases read
          · rename_i above
            cases read
            obtain ⟨decimal, rfl⟩ := Shape.read_magnitude_iff.1 number
            refine ⟨s, Shape.ofToken?_eq_some_iff.1 known, decimal, rfl, fun minus => ?_⟩
            rw [s.value_lt_zero_iff, not_and, Bool.not_eq_false] at above
            exact above minus
  · rintro ⟨s, known, decimal, number, zero⟩
    obtain ⟨value, unit⟩ := i
    obtain rfl : value = s.value := number
    have above : ¬s.value.lt 0 = true := by
      rw [s.value_lt_zero_iff, not_and, Bool.not_eq_false]
      exact zero
    rw [s.readChars_eq, Shape.ofToken?_eq_some_iff.2 known,
      Shape.read_magnitude_iff.2 ⟨decimal, rfl⟩]
    exact if_neg above

/-- The fault of a text that is not read is the first condition that it does not meet. -/
theorem refused_of_readChars {text : List Char} {fault : IntervalFault}
    (read : readChars text = .error fault) : Refused text fault := by
  cases parts : parts? text with
  | none =>
    rw [readChars, parts] at read
    cases read
    exact .shape (parts?_eq_none_iff.1 parts)
  | some found =>
    obtain ⟨s, -⟩ := exists_shape parts
    rw [s.readChars_eq] at read
    split at read
    · rename_i unknown
      cases read
      refine .unknownUnit s fun unit known => ?_
      rw [Shape.ofToken?_eq_some_iff.2 known] at unknown
      cases unknown
    · rename_i unit known
      have named := Shape.ofToken?_eq_some_iff.1 known
      split at read
      · rename_i unread
        cases read
        refine .magnitude s named fun decimal => ?_
        rw [Shape.read_magnitude_iff.2 ⟨decimal, rfl⟩] at unread
        cases unread
      · rename_i value number
        obtain ⟨decimal, rfl⟩ := Shape.read_magnitude_iff.1 number
        split at read
        · rename_i below
          cases read
          obtain ⟨minus, nonzero⟩ := s.value_lt_zero_iff.1 below
          exact .negative s named decimal minus nonzero
        · cases read

/-- A text that does not meet a condition, but all before it, is not read. -/
theorem readChars_of_refused {text : List Char} {fault : IntervalFault}
    (refused : Refused text fault) : readChars text = .error fault := by
  cases refused with
  | shape none =>
    rw [readChars, parts?_eq_none_iff.2 none]
  | unknownUnit s unknown =>
    have none : TimeUnit.ofToken? (String.ofList s.letters) = none :=
      Option.eq_none_iff_forall_ne_some.2 fun unit known =>
        unknown unit (Shape.ofToken?_eq_some_iff.1 known)
    rw [s.readChars_eq, none]
  | magnitude s known other =>
    have none : Double.read s.magnitude = none :=
      Option.eq_none_iff_forall_ne_some.2 fun x number =>
        other (Shape.read_magnitude_iff.1 number).1
    rw [s.readChars_eq, Shape.ofToken?_eq_some_iff.2 known, none]
  | negative s known decimal minus nonzero =>
    rw [s.readChars_eq, Shape.ofToken?_eq_some_iff.2 known,
      Shape.read_magnitude_iff.2 ⟨decimal, rfl⟩]
    exact if_pos (s.value_lt_zero_iff.2 ⟨minus, nonzero⟩)

/-- A text is refused for the first condition that it does not meet. -/
theorem readChars_eq_error_iff {text : List Char} {fault : IntervalFault} :
    readChars text = .error fault ↔ Refused text fault :=
  ⟨refused_of_readChars, readChars_of_refused⟩

/-- A text is read as an interval exactly when it has its shape with the token or the name of the
unit and a decimal, which has a minus sign only if its number is zero; the number is the one that is
read from the decimal, the nearest one. Every other text is refused, and the refusal shows the text
and the first of the four conditions that it does not meet. -/
theorem read_iff_shaped (text : String) :
    (∀ i, read text = .ok i ↔ ∃ s : Shape text.toList,
      s.Names i.unit ∧ s.IsDecimal ∧ Double.read s.magnitude = some i.value ∧ i.value = s.value ∧
        (s.negative = true → i.value.same 0 = true)) ∧
    (∀ e, read text = .error e ↔ e.input = text ∧ Refused text.toList e.fault) ∧
    [.shape, .unknownUnit, .magnitude, .negative].map IntervalFault.reason =
      ["expected a number followed by a unit", "unknown time unit", "magnitude is not a number",
        "negative durations are not supported"] := by
  refine ⟨fun i => ?_, fun e => ?_, rfl⟩
  · rw [read, mapError_eq_ok_iff, readChars_eq_ok_iff]
    constructor
    · rintro ⟨s, known, decimal, number, zero⟩
      exact ⟨s, known, decimal, Shape.read_magnitude_iff.2 ⟨decimal, number⟩, number, zero⟩
    · rintro ⟨s, known, decimal, -, number, zero⟩
      exact ⟨s, known, decimal, number, zero⟩
  · rw [read, ← readChars_eq_error_iff]
    obtain ⟨input, fault⟩ := e
    cases readChars text.toList with
    | ok i => simp [Except.mapError]
    | error reason => simp [Except.mapError, eq_comm]

end Vigil.Interval
