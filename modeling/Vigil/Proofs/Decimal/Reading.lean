import Vigil.Decimal.Shortest
import Vigil.Proofs.Decimal.Numeral
import Vigil.Proofs.Traversal
import Vigil.Text.Digit

/-!
# Reading decimals

A decimal is written as digits with a point among them or without one. It is read as the number that
is nearest to it, and a sign in front of it becomes the sign of the number.
-/

namespace Vigil

namespace Decimal

/-- Digits before a point and after it; without digits after it there may be no point. -/
def written (whole : List Char) : Option (List Char) → List Char
  | none => whole
  | some places => whole ++ '.' :: places

/-- The decimal of some digits, of which the last ones are places after a point. -/
def ofWritten (whole : List Char) (places : Option (List Char)) : Decimal :=
  ⟨ofDigits (whole ++ places.getD []), -(places.getD []).length⟩

/-- The characters of written digits are the digits and a point. -/
theorem mem_written {whole : List Char} {places : Option (List Char)} {c : Char}
    (member : c ∈ written whole places) : c ∈ whole ++ places.getD [] ∨ c = '.' := by
  cases places with
  | none => exact .inl (List.mem_append_left _ member)
  | some places =>
    rcases List.mem_append.1 member with before | after
    · exact .inl (List.mem_append_left _ before)
    · rcases List.mem_cons.1 after with mark | place
      · exact .inr mark
      · exact .inl (List.mem_append_right _ place)

/-- Every digit is written. -/
theorem mem_written_of_digit {whole : List Char} {places : Option (List Char)} {c : Char}
    (member : c ∈ whole ++ places.getD []) : c ∈ written whole places := by
  cases places with
  | none => simpa [written] using member
  | some places =>
    rcases List.mem_append.1 member with before | after
    · exact List.mem_append_left _ before
    · exact List.mem_append_right _ (List.mem_cons_of_mem _ after)

end Decimal

namespace Double

/-- Written digits are read as the number nearest to their decimal. -/
theorem readUnsigned_written {whole : List Char} {places : Option (List Char)}
    (nonempty : whole ++ places.getD [] ≠ [])
    (ascii : ∀ c ∈ whole ++ places.getD [], c.isDigit = true) (negative : Bool) :
    readUnsigned negative (Decimal.written whole places) =
      some (ofDecimal negative (Decimal.ofWritten whole places)) := by
  have before : ∀ c ∈ whole, c.isDigit = true := fun c member =>
    ascii c (List.mem_append_left _ member)
  unfold readUnsigned Decimal.written Decimal.ofWritten
  cases places with
  | none =>
    have taken : whole.takeWhile Char.isDigit = whole := List.takeWhile_eq_self_iff.2 before
    have dropped : whole.dropWhile Char.isDigit = [] := List.dropWhile_eq_nil_iff.2 before
    rw [Option.getD_none, List.append_nil] at nonempty ⊢
    simp [taken, dropped, nonempty]
  | some places =>
    have after : ∀ c ∈ places, c.isDigit = true := fun c member =>
      ascii c (List.mem_append_right _ member)
    have stops : ('.' :: places).takeWhile Char.isDigit = [] := rfl
    have taken : places.takeWhile Char.isDigit = places := List.takeWhile_eq_self_iff.2 after
    have dropped : places.dropWhile Char.isDigit = [] := List.dropWhile_eq_nil_iff.2 after
    rw [Option.getD_some] at nonempty
    dsimp only
    rw [takeWhile_append_of_all before stops, dropWhile_append_of_all before stops]
    simp [taken, dropped, nonempty]

/-- What is read as a number without a sign and without an exponent is written digits. If not all of
the text is, what is left of it is no exponent. -/
theorem exists_written_of_readUnsigned {negative : Bool} {text : List Char} {x : Double}
    (plain : ∀ c ∈ text, c ≠ 'e' ∧ c ≠ 'E') (reads : readUnsigned negative text = some x) :
    ∃ (whole : List Char) (places : Option (List Char)),
      text = Decimal.written whole places ∧ whole ++ places.getD [] ≠ [] ∧
        ∀ c ∈ whole ++ places.getD [], c.isDigit = true := by
  have split := (List.takeWhile_append_dropWhile (p := Char.isDigit) (l := text)).symm
  have before : ∀ c ∈ text.takeWhile Char.isDigit, c.isDigit = true := fun c member =>
    List.mem_takeWhile_imp member
  cases after : text.dropWhile Char.isDigit with
  | nil =>
    rw [after, List.append_nil] at split
    refine ⟨text.takeWhile Char.isDigit, none, split, ?_, by simpa using before⟩
    intro empty
    rw [Option.getD_none, List.append_nil] at empty
    simp [readUnsigned, empty, after] at reads
  | cons c tail =>
    have mark := plain c (by rw [split, after]; simp)
    by_cases point : c = '.'
    · subst point
      have parts := (List.takeWhile_append_dropWhile (p := Char.isDigit) (l := tail)).symm
      cases rest : tail.dropWhile Char.isDigit with
      | nil =>
        rw [rest, List.append_nil] at parts
        have places : ∀ c ∈ tail, c.isDigit = true := fun c member =>
          List.mem_takeWhile_imp (parts ▸ member)
        rw [after] at split
        refine ⟨text.takeWhile Char.isDigit, some tail, split, ?_, ?_⟩
        · intro empty
          rw [Option.getD_some, parts] at empty
          simp [readUnsigned, after, empty] at reads
        · intro c member
          exact (List.mem_append.1 member).elim (before c) (places c)
      | cons mark more =>
        have other := plain mark (by rw [split, after, parts, rest]; simp)
        simp [readUnsigned, after, rest, other] at reads
    · simp [readUnsigned, after, point, mark] at reads

/-- A digit of some script or a point is not changed by lower case, so it is no letter of a name. -/
theorem toLower_of_solid {c : Char} (solid : Text.isDecimalDigit c = true ∨ c = '.') :
    c.toLower = c := by
  refine dif_neg ?_
  rintro ⟨least, most⟩
  have least' : 65 ≤ c.toNat := UInt32.le_iff_toNat_le.1 least
  have most' : c.toNat ≤ 90 := UInt32.le_iff_toNat_le.1 most
  rcases solid with digit | rfl
  · unfold Text.isDecimalDigit at digit
    rw [if_pos (by omega)] at digit
    simp only [Char.isDigit, Bool.and_eq_true, decide_eq_true_eq] at digit
    have bound : c.toNat ≤ 57 := UInt32.le_iff_toNat_le.1 digit.2
    omega
  · exact absurd least' (by decide)

/-- A text of digits and points with a sign is read as without it, as far as it is a number. -/
theorem read_signText (negative : Bool) {text : List Char}
    (solid : ∀ c ∈ text, Text.isDecimalDigit c = true ∨ c = '.') :
    read (signText negative ++ text) = readUnsigned negative text := by
  cases text with
  | nil => cases negative <;> rfl
  | cons c rest =>
    have first := solid c List.mem_cons_self
    have other : ∀ d : Char, ¬(Text.isDecimalDigit d = true ∨ d = '.') → c ≠ d := by
      rintro d strange rfl
      exact strange first
    have sign : c ≠ '-' ∧ c ≠ '+' := ⟨other '-' (by decide), other '+' (by decide)⟩
    have letter : c.toLower ≠ 'n' ∧ c.toLower ≠ 'i' := by
      rw [toLower_of_solid first]
      exact ⟨other 'n' (by decide), other 'i' (by decide)⟩
    cases negative with
    | true =>
      change read ('-' :: c :: rest) = _
      cases reads : readUnsigned true (c :: rest) <;> simp [read, reads, letter]
    | false =>
      change read (c :: rest) = _
      cases reads : readUnsigned false (c :: rest) <;> simp [read, sign, reads, letter]

/-- Written digits with a sign are read as the number nearest to their decimal. -/
theorem read_written {whole : List Char} {places : Option (List Char)}
    (nonempty : whole ++ places.getD [] ≠ [])
    (ascii : ∀ c ∈ whole ++ places.getD [], c.isDigit = true) (negative : Bool) :
    read (signText negative ++ Decimal.written whole places) =
      some (ofDecimal negative (Decimal.ofWritten whole places)) := by
  rw [read_signText, readUnsigned_written nonempty ascii]
  intro c member
  rcases Decimal.mem_written member with digit | point
  · exact .inl (Text.isDecimalDigit_of_isDigit (ascii c digit))
  · exact .inr point

end Double

end Vigil
