import Vigil.Proofs.Interval.Shape

/-!
# Spelled intervals

An interval is written as a decimal and a unit: digits with at most one point, a minus sign in
front or not, and then a token of the unit. A text that spells an interval in this way is read as
the number nearest to the decimal, in that unit, unless this number is below zero. No other text is
read as an interval.
-/

namespace Vigil

/-- A decimal and a unit as they are written. -/
structure Spelling where
  negative : Bool
  /-- The digits before the point. -/
  whole : List Char
  /-- The digits after the point, where there is a point. -/
  places : Option (List Char)
  unit : TimeUnit
  /-- The unit is written by its long name. -/
  named : Bool

namespace Spelling

/-- The letters of the unit. -/
def letters (s : Spelling) : List Char := (if s.named then s.unit.name else s.unit.token).toList

/-- The point and the digits after it. -/
def fraction (s : Spelling) : List Char :=
  match s.places with
  | none => []
  | some places => '.' :: places

/-- The decimal without its sign. -/
def unsigned (s : Spelling) : List Char := s.whole ++ s.fraction

/-- The whole text, without blanks around it. -/
def chars (s : Spelling) : List Char := Double.signText s.negative ++ (s.unsigned ++ s.letters)

/-- All digits, from the first one on. -/
def digits (s : Spelling) : List Char := s.whole ++ s.places.getD []

/-- There is a digit, and all of them are ASCII digits. -/
structure Proper (s : Spelling) : Prop where
  nonempty : s.digits ≠ []
  ascii : ∀ c ∈ s.digits, c.isDigit = true

/-- The decimal without its sign, as it is exactly. -/
def decimal (s : Spelling) : Decimal := ⟨Decimal.ofDigits s.digits, -(s.places.getD []).length⟩

/-- The number nearest to the decimal. -/
def value (s : Spelling) : Double := Double.ofDecimal s.negative s.decimal

/-- The text spells this interval, with blanks allowed around it. -/
structure Spells (text : String) (s : Spelling) : Prop extends s.Proper where
  chars : Text.trim text.toList = s.chars

variable {s : Spelling}

/-! ## Letters -/

/-- The letters name the unit. -/
theorem ofToken?_letters (s : Spelling) : TimeUnit.ofToken? (String.ofList s.letters) = some s.unit := by
  unfold letters
  split
  · rw [String.ofList_toList, TimeUnit.ofToken?_name]
  · rw [String.ofList_toList, TimeUnit.ofToken?_token]

/-- There are letters, nothing but ASCII letters. -/
theorem letters_alpha (s : Spelling) : s.letters ≠ [] ∧ ∀ c ∈ s.letters, c.isAlpha = true := by
  unfold letters
  generalize s.unit = unit
  cases s.named <;> cases unit <;> exact ⟨by decide, List.all_eq_true.1 (by decide)⟩

/-! ## Digits -/

/-- The decimal without its sign is its digits with their point. -/
theorem unsigned_eq_written (s : Spelling) : s.unsigned = Decimal.written s.whole s.places := by
  unfold unsigned fraction
  cases s.places with
  | none => exact List.append_nil _
  | some places => rfl

/-- The decimal with its sign is read as the nearest number. -/
theorem Proper.read (proper : s.Proper) :
    Double.read (Double.signText s.negative ++ s.unsigned) = some s.value := by
  rw [unsigned_eq_written]
  exact Double.read_written proper.nonempty proper.ascii s.negative

end Spelling

/-- A unit is read from its token or its long name only. -/
theorem TimeUnit.exists_letters {letters : List Char} {unit : TimeUnit}
    (known : TimeUnit.ofToken? (String.ofList letters) = some unit) :
    ∃ named : Bool, letters = (if named then unit.name else unit.token).toList := by
  have spelled := List.find?_some known
  simp only [decide_eq_true_eq] at spelled
  rcases spelled with token | name
  · exact ⟨false, by rw [if_neg Bool.false_ne_true, ← token, String.toList_ofList]⟩
  · exact ⟨true, by rw [if_pos rfl, ← name, String.toList_ofList]⟩

namespace Interval

variable {s : Spelling}

/-- A spelled interval has the shape of an interval. -/
theorem exists_shape_of_proper (proper : s.Proper) {text : List Char}
    (trimmed : Text.trim text = s.chars) : ∃ shape : Shape text,
      shape.magnitude = Double.signText s.negative ++ s.unsigned ∧ shape.letters = s.letters := by
  obtain ⟨before, after, made, blankBefore, blankAfter⟩ := Text.exists_gaps text
  obtain ⟨lettered, alphabetic⟩ := s.letters_alpha
  rw [trimmed, Spelling.chars, Spelling.unsigned_eq_written] at made
  have script : ∀ c ∈ s.digits, Text.isDecimalDigit c = true := fun c member =>
    Text.isDecimalDigit_of_isDigit (proper.ascii c member)
  refine ⟨⟨before, s.negative, s.whole, s.places, s.letters, after, made.symm, blankBefore,
    blankAfter, script, lettered, alphabetic⟩, ?_, rfl⟩
  rw [Spelling.unsigned_eq_written]
  rfl

/-- A spelled interval is read as the nearest number in its unit, or refused where this is below
zero. -/
theorem readChars_of_proper (proper : s.Proper) {text : List Char}
    (trimmed : Text.trim text = s.chars) :
    readChars text = if s.value.lt 0 then .error .negative else .ok ⟨s.value, s.unit⟩ := by
  obtain ⟨shape, magnitude, letters⟩ := exists_shape_of_proper proper trimmed
  unfold readChars
  simp only [shape.parts?_eq, magnitude, letters, s.ofToken?_letters, proper.read]

/-- What is read as an interval spells one. -/
theorem exists_spelling {text : List Char} {i : Interval} (read : readChars text = .ok i) :
    ∃ s : Spelling, s.Proper ∧ Text.trim text = s.chars ∧ i = ⟨s.value, s.unit⟩ := by
  unfold readChars at read
  split at read
  · cases read
  · rename_i magnitude letters parts
    split at read
    · cases read
    · rename_i unit known
      split at read
      · cases read
      · rename_i value reads
        split at read
        · cases read
        · cases read
          obtain ⟨shape, rfl, rfl⟩ := exists_shape parts
          obtain ⟨named, spelled⟩ := TimeUnit.exists_letters known
          have plain : ∀ c ∈ Decimal.written shape.whole shape.places, c ≠ 'e' ∧ c ≠ 'E' := by
            intro c member
            have digit := shape.solid c member
            constructor <;> (rintro rfl; exact absurd digit (by decide))
          rw [Shape.magnitude, Double.read_signText _ shape.solid] at reads
          obtain ⟨whole, places, same, nonempty, ascii⟩ :=
            Double.exists_written_of_readUnsigned plain reads
          rw [same, Double.readUnsigned_written nonempty ascii] at reads
          refine ⟨⟨shape.negative, whole, places, unit, named⟩, ⟨nonempty, ascii⟩, ?_, ?_⟩
          · rw [shape.trim_eq_body, Shape.body, same, spelled, Spelling.chars,
              Spelling.unsigned_eq_written]
            rfl
          · exact congrArg (Interval.mk · unit) (Option.some.inj reads).symm

/-- A text that is read as an interval and spells one is read as the spelled one. -/
theorem eq_of_spells {text : String} {i : Interval} {s : Spelling} (read : read text = .ok i)
    (spells : s.Spells text) : i = ⟨s.value, s.unit⟩ := by
  have accepted := mapError_eq_ok_iff.1 read
  rw [readChars_of_proper spells.toProper spells.chars] at accepted
  split at accepted
  · cases accepted
  · cases accepted
    rfl

end Interval

end Vigil
