import Vigil.Proofs.Text.Classes
import Vigil.Proofs.Text.Pieces
import Vigil.Text.Split
import Vigil.Url.Basic

/-!
# Form data is read back

Form data are read piece by piece: between ampersands, a name and a value around the first equality
sign, in which plus signs stand for spaces and escapes for bytes. A name and a value that were written
as form data hold neither of these marks, so they are read back as they were whatever stands before
them, and so are pairs that are put behind a query.
-/

namespace Vigil.Url

open Text

/-! ## Escapes -/

/-- The characters that escapes are made of. -/
def inEscape (c : Char) : Bool := c = '%' || (hexValue? c).isSome

/-- A hexadecimal digit has its value. -/
theorem hexValue?_hexDigit : ∀ n < 16, hexValue? (hexDigit n) = some n := by decide

/-- The digits of a byte are two numbers below sixteen. -/
theorem digits_lt (b : UInt8) : b.toNat / 16 < 16 ∧ b.toNat % 16 < 16 := by
  have small : b.toNat < 256 := b.toNat_lt
  omega

/-- An escape is made of such characters. -/
theorem inEscape_of_mem {b : UInt8} {c : Char} (member : c ∈ escapeByte b) :
    inEscape c = true := by
  obtain ⟨high, low⟩ := digits_lt b
  simp only [escapeByte, List.mem_cons, List.not_mem_nil, or_false] at member
  rcases member with rfl | rfl | rfl
  · rfl
  · simp [inEscape, hexValue?_hexDigit _ high]
  · simp [inEscape, hexValue?_hexDigit _ low]

/-- An encoded text holds kept characters of the text, and escapes. -/
theorem mem_encode {keep : Char → Bool} {text : List Char} {c : Char}
    (member : c ∈ encode keep text) : c ∈ text ∧ keep c = true ∨ inEscape c = true := by
  obtain ⟨d, listed, part⟩ := List.mem_flatMap.1 member
  unfold encodeChar at part
  split at part
  · rename_i kept
    obtain rfl := List.mem_singleton.1 part
    exact .inl ⟨listed, kept⟩
  · obtain ⟨b, -, escape⟩ := List.mem_flatMap.1 part
    exact .inr (inEscape_of_mem escape)

/-- A written name or value holds kept characters, plus signs and escapes. -/
theorem mem_formText {text : List Char} {c : Char} (member : c ∈ formText text) :
    keptInForm c = true ∨ c = '+' ∨ inEscape c = true := by
  obtain ⟨d, listed, part⟩ := List.mem_flatMap.1 member
  split at part
  · exact .inr (.inl (List.mem_singleton.1 part))
  · have inside : c ∈ encode keptInForm [d] := by
      rwa [encode, List.flatMap_singleton]
    exact (mem_encode inside).elim (fun kept => .inl kept.2) fun escape => .inr (.inr escape)

/-- So it holds none of the marks between names and values. -/
theorem ne_of_mem_formText {text : List Char} {c d : Char} (member : c ∈ formText text)
    (mark : d = '&' ∨ d = '=' ∨ d = '#') : c ≠ d := by
  have outside : keptInForm d = false ∧ '+' ≠ d ∧ inEscape d = false := by
    rcases mark with rfl | rfl | rfl <;> decide
  rcases mem_formText member with kept | rfl | escape
  · exact ne_of_class kept outside.1
  · exact outside.2.1
  · exact ne_of_class escape outside.2.2

end Vigil.Url
