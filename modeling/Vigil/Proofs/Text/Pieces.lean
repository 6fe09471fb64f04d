import Mathlib.Data.List.TakeWhile
import Vigil.Proofs.Traversal
import Vigil.Text.Blank

/-!
# Pieces of a text

The pieces between separators are those of core's split, so they are joined by the separator
to the text again, and no piece holds it. Blanks at the end of a text only ever lengthen its
last piece. Once the pieces are trimmed it makes no difference whether the text was.
-/

namespace Vigil.Text

/-- The pieces are those of core's split. -/
theorem splitAt_eq_splitOn (separator : Char) (text : List Char) :
    splitAt separator text = text.splitOn separator := by
  induction text with
  | nil => rfl
  | cons c rest ih =>
    rw [splitAt, List.splitOn_cons_eq_if_modifyHead, ih]
    by_cases h : c = separator
    · simp [h]
    · obtain ⟨piece, pieces, split⟩ :=
        List.exists_cons_of_ne_nil (List.splitOn_ne_nil separator rest)
      simp [h, split]

/-- The pieces between separators, once they are joined by one separator each, are the pieces
again. -/
theorem splitAt_intercalate {separator : Char} {pieces : List (List Char)}
    (absent : ∀ piece ∈ pieces, separator ∉ piece) (some : pieces ≠ []) :
    splitAt separator ([separator].intercalate pieces) = pieces := by
  rw [splitAt_eq_splitOn, List.splitOn_intercalate separator absent some]

/-- Every text is its pieces joined by separators, and no piece holds one. -/
theorem exists_pieces (separator : Char) (text : List Char) :
    ∃ pieces, text = [separator].intercalate pieces ∧ pieces ≠ [] ∧
      ∀ piece ∈ pieces, separator ∉ piece := by
  refine ⟨text.splitOn separator, (List.intercalate_splitOn separator).symm,
    List.splitOn_ne_nil separator text, fun piece listed member => ?_⟩
  have clear := not_of_mem_splitOnP (· == separator) text piece listed separator member
  simp at clear

/-- A text that holds a separator is cut there. -/
theorem splitAt_append_cons (separator : Char) (before after : List Char) :
    splitAt separator (before ++ separator :: after) =
      splitAt separator before ++ splitAt separator after := by
  simp only [splitAt_eq_splitOn, List.splitOn]
  exact List.splitOnP_append_cons before after (by simp)

/-- The characters of a piece are those of the text. -/
theorem mem_of_mem_splitAt {separator : Char} {text piece : List Char}
    (listed : piece ∈ splitAt separator text) : ∀ c ∈ piece, c ∈ text := by
  induction text generalizing piece with
  | nil => simp_all [splitAt]
  | cons d rest ih =>
    intro c member
    obtain ⟨first, others, cut⟩ : ∃ first others, splitAt separator rest = first :: others := by
      rw [splitAt_eq_splitOn]
      exact List.exists_cons_of_ne_nil (List.splitOn_ne_nil separator rest)
    rw [cut] at ih
    rw [splitAt] at listed
    split at listed
    · rcases List.mem_cons.1 listed with rfl | later
      · cases member
      · exact List.mem_cons_of_mem d (ih (cut ▸ later) c member)
    · rw [cut] at listed
      rcases List.mem_cons.1 listed with rfl | later
      · rcases List.mem_cons.1 member with rfl | inside
        · exact List.mem_cons_self
        · exact List.mem_cons_of_mem d (ih List.mem_cons_self c inside)
      · exact List.mem_cons_of_mem d (ih (List.mem_cons_of_mem first later) c member)

/-- A text without separators lengthens the last piece of a text in front of it. -/
theorem splitAt_append {separator : Char} (text : List Char) {more : List Char}
    (absent : separator ∉ more) :
    ∃ pieces last, splitAt separator text = pieces ++ [last] ∧
      splitAt separator (text ++ more) = pieces ++ [last ++ more] := by
  induction text with
  | nil =>
    have whole : splitAt separator more = [more] := by
      rw [splitAt_eq_splitOn, List.splitOn_eq_singleton absent]
    exact ⟨[], [], rfl, by simpa using whole⟩
  | cons c rest ih =>
    obtain ⟨pieces, last, before, after⟩ := ih
    by_cases h : c = separator
    · exact ⟨[] :: pieces, last, by simp [splitAt, h, before], by simp [splitAt, h, after]⟩
    · cases pieces with
      | nil => exact ⟨[], c :: last, by simp [splitAt, h, before], by simp [splitAt, h, after]⟩
      | cons piece pieces =>
        exact ⟨(c :: piece) :: pieces, last, by simp [splitAt, h, before],
          by simp [splitAt, h, after]⟩

/-- Blanks and nothing else. -/
def IsGap (gap : List Char) : Prop := ∀ c ∈ gap, isBlank c = true

/-- Blanks after a text are trimmed away at its end. -/
theorem trimEnd_append (text : List Char) {gap : List Char} (blank : IsGap gap) :
    trimEnd (text ++ gap) = trimEnd text := by
  rw [trimEnd, List.reverse_append, List.dropWhile_append_of_pos, trimEnd]
  intro c member
  exact blank c (List.mem_reverse.1 member)

/-- Blanks after a text are trimmed away with its own. -/
theorem trim_append {blanks : List Char} (text : List Char) (blank : IsGap blanks) :
    trim (text ++ blanks) = trim text := by
  rw [trim, trim, trimStart, trimStart, List.dropWhile_append]
  split
  · rename_i empty
    have none : blanks.dropWhile isBlank = [] := List.dropWhile_eq_nil_iff.2 blank
    rw [none, List.isEmpty_iff.1 empty]
  · exact trimEnd_append _ blank

/-- A text is trimmed at its end by taking blanks away. -/
theorem exists_trimEnd_append (text : List Char) :
    ∃ blanks, text = trimEnd text ++ blanks ∧ IsGap blanks := by
  refine ⟨(text.reverse.takeWhile isBlank).reverse, ?_, fun c member => ?_⟩
  · rw [trimEnd, ← List.reverse_append, List.takeWhile_append_dropWhile, List.reverse_reverse]
  · exact List.mem_takeWhile_imp (List.mem_reverse.1 member)

/-- A text is trimmed by taking blanks away at both of its ends. -/
theorem exists_gaps (text : List Char) :
    ∃ before after, text = before ++ (trim text ++ after) ∧ IsGap before ∧ IsGap after := by
  obtain ⟨after, rest, blank⟩ := exists_trimEnd_append (trimStart text)
  refine ⟨text.takeWhile isBlank, after, ?_, fun c member => List.mem_takeWhile_imp member, blank⟩
  calc
    text = text.takeWhile isBlank ++ trimStart text := List.takeWhile_append_dropWhile.symm
    _ = text.takeWhile isBlank ++ (trim text ++ after) := congrArg _ rest

/-- A text without blanks is what is left once blanks around it are trimmed away. -/
theorem trim_of_solid {before core after : List Char} (front : IsGap before) (back : IsGap after)
    (solid : ∀ c ∈ core, isBlank c = false) : trim (before ++ (core ++ after)) = core := by
  have starts : (before ++ (core ++ after)).dropWhile isBlank = (core ++ after).dropWhile isBlank :=
    List.dropWhile_append_of_pos front
  rw [trim, trimStart, starts, ← trimStart, ← trim, trim_append core back, trim, trimStart,
    List.dropWhile_eq_self_iff.2, trimEnd, List.dropWhile_eq_self_iff.2, List.reverse_reverse]
  · intro some
    have last := solid _ (List.mem_reverse.1 (List.getElem_mem some))
    simp only [last, Bool.false_eq_true, not_false_eq_true]
  · intro some
    have first := solid _ (List.getElem_mem some)
    simp only [first, Bool.false_eq_true, not_false_eq_true]

/-- Nothing is left of a text exactly when it is blank. -/
theorem isEmpty_trim_iff {text : List Char} : (trim text).isEmpty = true ↔ IsGap text := by
  rw [List.isEmpty_iff]
  constructor
  · intro nothing c member
    obtain ⟨blanks, rest, blank⟩ := exists_trimEnd_append (trimStart text)
    change trimEnd (trimStart text) = [] at nothing
    rw [nothing, List.nil_append] at rest
    rw [← List.takeWhile_append_dropWhile (p := isBlank) (l := text), List.mem_append] at member
    rcases member with front | later
    · exact List.mem_takeWhile_imp front
    · change c ∈ trimStart text at later
      exact blank c (rest ▸ later)
  · intro blank
    have removed := trim_append [] blank
    rw [List.nil_append] at removed
    rw [removed]
    rfl

/-- Trimmed pieces of a text that was trimmed at its end are the trimmed pieces of the text. -/
theorem map_trim_splitAt_trimEnd {separator : Char} (solid : isBlank separator = false)
    (text : List Char) :
    (splitAt separator (trimEnd text)).map trim = (splitAt separator text).map trim := by
  obtain ⟨blanks, whole, blank⟩ := exists_trimEnd_append text
  have absent : separator ∉ blanks := by
    intro member
    rw [blank separator member] at solid
    cases solid
  obtain ⟨pieces, last, cut, lengthened⟩ := splitAt_append (trimEnd text) absent
  rw [← whole] at lengthened
  rw [cut, lengthened, List.map_append, List.map_append, List.map_singleton, List.map_singleton,
    trim_append last blank]

end Vigil.Text
