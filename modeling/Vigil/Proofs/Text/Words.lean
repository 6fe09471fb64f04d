import Mathlib.Data.List.DropRight
import Vigil.Proofs.Text.Pieces

/-!
# Words

A text is cut into words at its blanks, so the words of a text with a blank in it are those before
the blank and those after it. Blanks around a text belong to no word, and a text without blanks is
one word. Trimming therefore keeps the words, and trimming a second time changes nothing.
-/

namespace Vigil.Text

/-- A word that is being read ends at a blank. -/
theorem wordsFrom_append_cons {c : Char} (blank : isBlank c = true) (current before after : List Char) :
    wordsFrom current (before ++ c :: after) = wordsFrom current before ++ words after := by
  induction before generalizing current with
  | nil =>
    simp only [List.nil_append, wordsFrom, blank, if_true, words]
    split <;> rfl
  | cons d rest ih =>
    simp only [List.cons_append, wordsFrom, ih]
    split
    · split <;> rfl
    · rfl

/-- A text is cut at each of its blanks. -/
theorem words_append_cons {c : Char} (blank : isBlank c = true) (before after : List Char) :
    words (before ++ c :: after) = words before ++ words after :=
  wordsFrom_append_cons blank [] before after

/-- Blanks in front of a text belong to no word. -/
theorem words_gap_append {gap : List Char} (blank : IsGap gap) (text : List Char) :
    words (gap ++ text) = words text := by
  induction gap with
  | nil => rfl
  | cons c rest ih =>
    have first : isBlank c = true := blank c List.mem_cons_self
    have others : IsGap rest := fun d member => blank d (List.mem_cons_of_mem c member)
    calc
      words (c :: rest ++ text) = words [] ++ words (rest ++ text) :=
        words_append_cons first [] (rest ++ text)
      _ = words text := ih others

/-- Nor do blanks after it. -/
theorem words_append_gap {gap : List Char} (text : List Char) (blank : IsGap gap) :
    words (text ++ gap) = words text := by
  cases gap with
  | nil => rw [List.append_nil]
  | cons c rest =>
    have others : IsGap rest := fun d member => blank d (List.mem_cons_of_mem c member)
    have none : words rest = [] := by
      rw [← List.append_nil rest, words_gap_append others []]
      rfl
    rw [words_append_cons (blank c List.mem_cons_self), none, List.append_nil]

/-- Trimming keeps the words. -/
theorem words_trim (text : List Char) : words (trim text) = words text := by
  obtain ⟨before, after, whole, front, back⟩ := exists_gaps text
  calc
    words (trim text) = words (trim text ++ after) := (words_append_gap _ back).symm
    _ = words (before ++ (trim text ++ after)) := (words_gap_append front _).symm
    _ = words text := by rw [← whole]

/-- A word that is being read takes in all characters that are not blank. -/
theorem wordsFrom_of_solid {current text : List Char} (solid : ∀ c ∈ text, isBlank c = false)
    (some : current.reverse ++ text ≠ []) : wordsFrom current text = [current.reverse ++ text] := by
  induction text generalizing current with
  | nil =>
    rw [List.append_nil] at some ⊢
    have begun : current ≠ [] := fun none => some (by rw [none, List.reverse_nil])
    simp only [wordsFrom, List.isEmpty_iff, begun, if_false]
  | cons c rest ih =>
    have first : isBlank c = false := solid c List.mem_cons_self
    have others : ∀ d ∈ rest, isBlank d = false := fun d member =>
      solid d (List.mem_cons_of_mem c member)
    have taken : (c :: current).reverse ++ rest = current.reverse ++ c :: rest := by
      rw [List.reverse_cons, List.append_assoc, List.singleton_append]
    simp only [wordsFrom, first, Bool.false_eq_true, if_false]
    rw [ih others (taken ▸ some), taken]

/-- A text without blanks is one word. -/
theorem words_of_solid {text : List Char} (solid : ∀ c ∈ text, isBlank c = false)
    (some : text ≠ []) : words text = [text] :=
  wordsFrom_of_solid solid some

/-- A word in front of a blank is the first word. -/
theorem words_cons_cons (word : List Char) {c : Char} (solid : ∀ d ∈ word, isBlank d = false)
    (some : word ≠ []) (blank : isBlank c = true) (text : List Char) :
    words (word ++ c :: text) = word :: words text := by
  rw [words_append_cons blank, words_of_solid solid some, List.singleton_append]

/-- Trimming the end of a text that does not end in blanks only looks at its end. -/
theorem trimEnd_append_of_ne_nil (before : List Char) {text : List Char} (some : trimEnd text ≠ []) :
    trimEnd (before ++ text) = before ++ trimEnd text := by
  have kept : text.reverse.dropWhile isBlank ≠ [] := fun none => some (by rw [trimEnd, none]; rfl)
  rw [trimEnd, List.reverse_append, List.dropWhile_append, if_neg (by simpa using kept),
    List.reverse_append, List.reverse_reverse, trimEnd]

/-- What was trimmed at its end is trimmed there. -/
theorem trimEnd_trimEnd (text : List Char) : trimEnd (trimEnd text) = trimEnd text := by
  simp only [trimEnd, List.reverse_reverse, List.dropWhile_idempotent]

/-- What was trimmed at both ends begins with no blank. -/
theorem trimStart_trim (text : List Char) : trimStart (trim text) = trim text := by
  obtain ⟨blanks, whole, -⟩ := exists_trimEnd_append (trimStart text)
  change trimStart text = trim text ++ blanks at whole
  have start : (trimStart text).dropWhile isBlank = trimStart text :=
    List.dropWhile_idempotent isBlank text
  rw [whole] at start
  cases kept : trim text with
  | nil => rfl
  | cons c rest =>
    rw [kept] at start
    have solid : ¬isBlank c = true := List.dropWhile_eq_self_iff.1 start (Nat.succ_pos _)
    rw [trimStart, List.dropWhile_cons, if_neg solid]

/-- Trimming a second time changes nothing. -/
theorem trim_trim (text : List Char) : trim (trim text) = trim text := by
  calc
    trim (trim text) = trimEnd (trim text) := congrArg trimEnd (trimStart_trim text)
    _ = trim text := trimEnd_trimEnd (trimStart text)

end Vigil.Text
