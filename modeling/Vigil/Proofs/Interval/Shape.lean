import Mathlib.Data.List.DropRight
import Vigil.Interval.Basic
import Vigil.Proofs.Decimal.Reading
import Vigil.Proofs.Text.Classes
import Vigil.Proofs.Text.Pieces

/-!
# The shape of an interval

Before a number or a unit is looked at, a text has to have the shape of an interval: a sign or none,
digits of any script with at most one point, and then letters of ASCII, with blanks around all of it.
The reader finds the parts of a text exactly when it has this shape, and they are the parts of the
shape.
-/

namespace Vigil.Interval

/-- A text that has the shape of an interval, in its parts. -/
structure Shape (text : List Char) where
  before : List Char
  negative : Bool
  /-- The digits before the point. -/
  whole : List Char
  /-- The digits after the point, where there is a point. -/
  places : Option (List Char)
  letters : List Char
  after : List Char
  made : before ++ (Double.signText negative ++ (Decimal.written whole places ++ letters) ++ after) =
    text
  blankBefore : Text.IsGap before
  blankAfter : Text.IsGap after
  script : ∀ c ∈ whole ++ places.getD [], Text.isDecimalDigit c = true
  lettered : letters ≠ []
  alphabetic : ∀ c ∈ letters, c.isAlpha = true

/-! ## Cutting a text into its parts -/

/-- The sign of a text and what follows it. -/
def splitSign (text : List Char) : Bool × List Char :=
  if text.head? = some '-' then (true, text.tail) else (false, text)

/-- The digits at the front of a text, before a point and after it, and what follows them. -/
def splitNumber (text : List Char) : List Char × Option (List Char) × List Char :=
  let whole := text.takeWhile Text.isDecimalDigit
  let rest := text.dropWhile Text.isDecimalDigit
  if rest.head? = some '.' then
    (whole, some (rest.tail.takeWhile Text.isDecimalDigit), rest.tail.dropWhile Text.isDecimalDigit)
  else (whole, none, rest)

/-- The reader of the parts cuts off the sign first and then the digits. -/
theorem parts?_eq_split (text : List Char) :
    parts? text =
      let (negative, number) := splitSign (Text.trim text)
      let (whole, places, letters) := splitNumber number
      if letters.isEmpty ∨ letters.any (fun c => !c.isAlpha) then none
      else some (Double.signText negative ++ Decimal.written whole places, letters) := by
  have sign : ∀ body : List Char,
      (if body.head? = some '-' then ['-'] else []) = Double.signText (splitSign body).1 ∧
        (if body.head? = some '-' then body.tail else body) = (splitSign body).2 := by
    intro body
    unfold splitSign
    split <;> exact ⟨rfl, rfl⟩
  unfold parts?
  simp only [sign]
  generalize splitSign (Text.trim text) = signed
  obtain ⟨negative, number⟩ := signed
  simp only [splitNumber]
  by_cases point : (number.dropWhile Text.isDecimalDigit).head? = some '.'
  · simp only [point, if_true, Decimal.written, List.append_assoc, List.cons_append, List.nil_append]
  · have kept := List.dropWhile_idempotent Text.isDecimalDigit number
    have parts := List.takeWhile_append_dropWhile (p := Text.isDecimalDigit)
      (l := number.dropWhile Text.isDecimalDigit)
    rw [kept] at parts
    have none := List.append_left_eq_self.1 parts
    simp only [point, if_false, kept, none, Decimal.written, List.append_nil]

/-- The sign and the rest make up the text. -/
theorem splitSign_eq (text : List Char) :
    Double.signText (splitSign text).1 ++ (splitSign text).2 = text := by
  unfold splitSign
  split
  · rename_i minus
    obtain ⟨rest, rfl⟩ := List.head?_eq_some_iff.1 minus
    rfl
  · rfl

/-- A sign is cut off where no other one follows. -/
theorem splitSign_append (negative : Bool) {rest : List Char} (unsigned : rest.head? ≠ some '-') :
    splitSign (Double.signText negative ++ rest) = (negative, rest) := by
  cases negative with
  | true => rfl
  | false => exact if_neg unsigned

/-- The digits and the rest make up the text. -/
theorem splitNumber_eq {text whole letters : List Char} {places : Option (List Char)}
    (cut : splitNumber text = (whole, places, letters)) :
    Decimal.written whole places ++ letters = text ∧
      ∀ c ∈ whole ++ places.getD [], Text.isDecimalDigit c = true := by
  have script : ∀ (rest : List Char), ∀ c ∈ rest.takeWhile Text.isDecimalDigit,
      Text.isDecimalDigit c = true := fun _ _ member => List.mem_takeWhile_imp member
  have parts := List.takeWhile_append_dropWhile (p := Text.isDecimalDigit) (l := text)
  simp only [splitNumber] at cut
  split at cut
  · rename_i point
    cases cut
    obtain ⟨rest, begins⟩ := List.head?_eq_some_iff.1 point
    rw [begins, List.tail_cons]
    refine ⟨?_, fun c member => (List.mem_append.1 member).elim (script text c) (script rest c)⟩
    rw [Decimal.written, List.append_assoc, List.cons_append, List.takeWhile_append_dropWhile,
      ← begins, parts]
  · cases cut
    exact ⟨parts, fun c member => script text c (by simpa using member)⟩

/-- Digits are cut off where neither another digit nor a point follows. -/
theorem splitNumber_append {whole letters : List Char} {places : Option (List Char)}
    (script : ∀ c ∈ whole ++ places.getD [], Text.isDecimalDigit c = true)
    (noDigit : letters.takeWhile Text.isDecimalDigit = []) (noPoint : letters.head? ≠ some '.') :
    splitNumber (Decimal.written whole places ++ letters) = (whole, places, letters) := by
  have before : ∀ c ∈ whole, Text.isDecimalDigit c = true := fun c member =>
    script c (List.mem_append_left _ member)
  cases places with
  | none =>
    simp only [splitNumber, Decimal.written, takeWhile_append_of_all before noDigit,
      dropWhile_append_of_all before noDigit, if_neg noPoint]
  | some places =>
    have after : ∀ c ∈ places, Text.isDecimalDigit c = true := fun c member =>
      script c (List.mem_append_right _ member)
    have stops : ('.' :: (places ++ letters)).takeWhile Text.isDecimalDigit = [] := rfl
    simp only [splitNumber, Decimal.written, List.append_assoc, List.cons_append,
      takeWhile_append_of_all before stops, dropWhile_append_of_all before stops, List.head?_cons,
      if_true, List.tail_cons, takeWhile_append_of_all after noDigit,
      dropWhile_append_of_all after noDigit]

/-! ## Shapes and parts -/

namespace Shape

variable {text : List Char}

/-- The digits before and after the point. -/
def digits (s : Shape text) : List Char := s.whole ++ s.places.getD []

/-- The sign and the digits with their point. -/
def magnitude (s : Shape text) : List Char :=
  Double.signText s.negative ++ Decimal.written s.whole s.places

/-- The text without the blanks around it. -/
def body (s : Shape text) : List Char :=
  Double.signText s.negative ++ (Decimal.written s.whole s.places ++ s.letters)

/-- The number consists of digits and a point. -/
theorem solid (s : Shape text) : ∀ c ∈ Decimal.written s.whole s.places,
    Text.isDecimalDigit c = true ∨ c = '.' :=
  fun c member => (Decimal.mem_written member).imp_left (s.script c)

/-- There are no blanks inside. -/
theorem isBlank_eq_false (s : Shape text) : ∀ c ∈ s.body, Text.isBlank c = false := by
  intro c member
  simp only [body, List.mem_append] at member
  rcases member with sign | number | letter
  · cases minus : s.negative with
    | false =>
      rw [minus] at sign
      cases sign
    | true =>
      rw [minus] at sign
      rw [List.mem_singleton.1 sign]
      decide
  · rcases s.solid c number with digit | rfl
    · exact Text.separate_isDecimalDigit_isBlank c digit
    · decide
  · exact Text.separate_isAlpha_isBlank c (s.alphabetic c letter)

/-- So trimming leaves the parts that count. -/
theorem trim_eq_body (s : Shape text) : Text.trim text = s.body := by
  rw [← Text.trim_of_solid s.blankBefore s.blankAfter s.isBlank_eq_false]
  exact congrArg Text.trim s.made.symm

/-- The letters begin with neither a digit nor a point. -/
theorem letters_begin (s : Shape text) :
    s.letters.takeWhile Text.isDecimalDigit = [] ∧ s.letters.head? ≠ some '.' := by
  cases begins : s.letters with
  | nil => exact absurd begins s.lettered
  | cons c rest =>
    have letter := s.alphabetic c (begins ▸ List.mem_cons_self)
    refine ⟨?_, ?_⟩
    · simp [Text.separate_isAlpha_isDecimalDigit c letter]
    · rintro ⟨⟩
      exact absurd letter (by decide)

/-- The parts that the reader finds are those of the shape. -/
theorem parts?_eq (s : Shape text) : parts? text = some (s.magnitude, s.letters) := by
  obtain ⟨noDigit, noPoint⟩ := s.letters_begin
  have unsigned : (Decimal.written s.whole s.places ++ s.letters).head? ≠ some '-' := by
    intro minus
    rcases List.mem_append.1 (List.mem_of_head? minus) with number | letter
    · exact absurd (s.solid '-' number) (by decide)
    · exact absurd (s.alphabetic '-' letter) (by decide)
  have alpha : s.letters.any (fun c => !c.isAlpha) = false := by
    rw [List.any_eq_false]
    intro c member
    simp [s.alphabetic c member]
  rw [parts?_eq_split, s.trim_eq_body, body, splitSign_append s.negative unsigned]
  simp only [splitNumber_append s.script noDigit noPoint, List.isEmpty_iff, s.lettered, alpha]
  rfl

end Shape

/-- A text in which the reader finds parts has the shape of an interval with these parts. -/
theorem exists_shape {text magnitude letters : List Char}
    (parts : parts? text = some (magnitude, letters)) :
    ∃ s : Shape text, s.magnitude = magnitude ∧ s.letters = letters := by
  obtain ⟨before, after, made, blankBefore, blankAfter⟩ := Text.exists_gaps text
  rw [parts?_eq_split] at parts
  rw [← splitSign_eq (Text.trim text)] at made
  generalize splitSign (Text.trim text) = signed at *
  obtain ⟨negative, number⟩ := signed
  dsimp only at parts made
  cases cut : splitNumber number with
  | mk whole rest =>
    obtain ⟨places, found⟩ := rest
    obtain ⟨number, script⟩ := splitNumber_eq cut
    simp only [cut] at parts
    split at parts
    · cases parts
    · rename_i lettered
      cases parts
      simp only [List.isEmpty_iff, List.any_eq_true, not_or, not_exists, not_and,
        Bool.not_eq_true', Bool.not_eq_false] at lettered
      rw [← number] at made
      exact ⟨⟨before, negative, whole, places, letters, after, made.symm, blankBefore, blankAfter,
        script, lettered.1, lettered.2⟩, rfl, rfl⟩

/-- Without parts a text has no such shape. -/
theorem parts?_eq_none_iff {text : List Char} : parts? text = none ↔ IsEmpty (Shape text) := by
  constructor
  · exact fun none => ⟨fun s => by rw [s.parts?_eq] at none; cases none⟩
  · intro none
    cases parts : parts? text with
    | none => rfl
    | some found =>
      obtain ⟨s, -⟩ := exists_shape parts
      exact none.elim s

end Vigil.Interval
