import Vigil.Text.Alphabetic
import Vigil.Text.Blank
import Vigil.Text.Digit

/-!
# Classes of characters

Readers tell where a part of a text ends by the class of the next character: blanks, digits and
letters have no character in common.
-/

namespace Vigil.Text

/-- Two classes of characters have none in common. -/
def Separate (left right : Char → Bool) : Prop := ∀ c, left c = true → right c = false

/-- Of separate classes either one may come first. -/
theorem Separate.symm {left right : Char → Bool} (separate : Separate left right) :
    Separate right left := by
  intro c inside
  cases hit : left c with
  | false => rfl
  | true =>
    have outside := separate c hit
    rw [inside] at outside
    cases outside

/-- A character of a class differs from every character that is not of it. -/
theorem ne_of_class {inside : Char → Bool} {c d : Char} (member : inside c = true)
    (outside : inside d = false) : c ≠ d := by
  rintro rfl
  rw [member] at outside
  cases outside

/-- Tables are separate when none of their ranges meet. -/
theorem separate_inRanges {left right : List (Nat × Nat)}
    (apart : (left.all fun a => right.all fun b => a.2 < b.1 || b.2 < a.1) = true) :
    Separate (inRanges left) (inRanges right) := by
  intro c inside
  simp only [inRanges, List.any_eq_true, List.any_eq_false, Bool.and_eq_true, decide_eq_true_eq]
    at inside ⊢
  simp only [List.all_eq_true, Bool.or_eq_true, decide_eq_true_eq] at apart
  obtain ⟨a, listed, above, below⟩ := inside
  intro b member bounds
  rcases apart a listed b member with before | after
  · omega
  · omega

/-- The letters of ASCII as a table. -/
theorem inRanges_of_isAlpha {c : Char} (letter : c.isAlpha = true) :
    inRanges [(65, 90), (97, 122)] c = true := by
  change (decide ('A'.val ≤ c.val ∧ c.val ≤ 'Z'.val) ||
    decide ('a'.val ≤ c.val) && decide (c.val ≤ 'z'.val)) = true at letter
  simp only [Bool.or_eq_true, Bool.and_eq_true, decide_eq_true_eq, UInt32.le_iff_toNat_le] at letter
  change (65 ≤ c.toNat ∧ c.toNat ≤ 90) ∨ (97 ≤ c.toNat ∧ c.toNat ≤ 122) at letter
  simp only [inRanges, List.any_cons, List.any_nil, Bool.or_false, Bool.or_eq_true,
    Bool.and_eq_true, decide_eq_true_eq]
  exact letter

/-- The digits of ASCII as a table. -/
theorem inRanges_of_isDigit {c : Char} (digit : c.isDigit = true) :
    inRanges [(48, 57)] c = true := by
  simp only [Char.isDigit, Bool.and_eq_true, decide_eq_true_eq, ge_iff_le,
    UInt32.le_iff_toNat_le] at digit
  change 48 ≤ c.toNat ∧ c.toNat ≤ 57 at digit
  simp only [inRanges, List.any_cons, List.any_nil, Bool.or_false, Bool.and_eq_true,
    decide_eq_true_eq]
  exact digit

/-- Letters of ASCII are none of the characters in a table that leaves them out. -/
theorem separate_isAlpha {table : List (Nat × Nat)}
    (apart : ([(65, 90), (97, 122)].all fun a => table.all fun b => a.2 < b.1 || b.2 < a.1) =
      true) : Separate Char.isAlpha (inRanges table) :=
  fun c letter => separate_inRanges apart c (inRanges_of_isAlpha letter)

/-- No blank is alphabetic. -/
theorem separate_isBlank_isAlphabetic : Separate isBlank isAlphabetic := by
  intro c blank
  unfold isAlphabetic
  split
  · exact (separate_isAlpha (by decide)).symm c blank
  · exact separate_inRanges (by decide +kernel) c blank

/-- No digit is alphabetic. -/
theorem separate_isDigit_isAlphabetic : Separate Char.isDigit isAlphabetic := by
  intro c digit
  have inside := inRanges_of_isDigit digit
  have ascii : c.toNat < 128 := by
    simp [inRanges] at inside
    omega
  rw [isAlphabetic, if_pos ascii]
  exact (separate_isAlpha (by decide)).symm c inside

/-- No blank is a digit of any script. -/
theorem separate_isDecimalDigit_isBlank : Separate isDecimalDigit isBlank := by
  intro c digit
  unfold isDecimalDigit at digit
  split at digit
  · exact separate_inRanges (by decide) c (inRanges_of_isDigit digit)
  · exact separate_inRanges (by decide +kernel) c digit

/-- No blank is a letter of ASCII. -/
theorem separate_isAlpha_isBlank : Separate Char.isAlpha isBlank := separate_isAlpha (by decide)

/-- No letter of ASCII is a digit of any script. -/
theorem separate_isAlpha_isDecimalDigit : Separate Char.isAlpha isDecimalDigit := by
  intro c letter
  have inside := inRanges_of_isAlpha letter
  have ascii : c.toNat < 128 := by
    simp [inRanges] at inside
    omega
  rw [isDecimalDigit, if_pos ascii]
  cases digit : c.isDigit with
  | false => rfl
  | true =>
    have separate : Separate Char.isAlpha (inRanges [(48, 57)]) := separate_isAlpha (by decide)
    have apart := separate c letter
    rw [inRanges_of_isDigit digit] at apart
    cases apart

end Vigil.Text
