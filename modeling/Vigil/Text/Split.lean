/-!
# Splitting at a separator

A text is split at the first or the last occurrence of a separator. Both parts
and the separator between them give the text again.
-/

namespace Vigil.Text

/-- The parts before and after the first separator. -/
def splitFirst (separator : Char) : List Char → Option (List Char × List Char)
  | [] => none
  | c :: rest =>
      if c = separator then some ([], rest)
      else (splitFirst separator rest).map fun parts => (c :: parts.1, parts.2)

/-- The parts before and after the last separator. -/
def splitLast (separator : Char) : List Char → Option (List Char × List Char)
  | [] => none
  | c :: rest =>
      match splitLast separator rest with
      | some parts => some (c :: parts.1, parts.2)
      | none => if c = separator then some ([], rest) else none

/-- The first split finds a separator exactly when there is one. -/
theorem splitFirst_eq_none_iff {separator : Char} {text : List Char} :
    splitFirst separator text = none ↔ separator ∉ text := by
  induction text with
  | nil => simp [splitFirst]
  | cons c rest ih =>
    by_cases h : c = separator
    · simp [splitFirst, h]
    · simp [splitFirst, h, ih, Ne.symm h]

/-- The parts of a first split, and what the first part does not hold. -/
theorem splitFirst_eq_some_iff {separator : Char} {text before after : List Char} :
    splitFirst separator text = some (before, after) ↔
      text = before ++ separator :: after ∧ separator ∉ before := by
  induction text generalizing before with
  | nil => simp [splitFirst]
  | cons c rest ih =>
    by_cases h : c = separator
    · cases before <;> simp_all [splitFirst, eq_comm]
    · cases before with
      | nil => simp [splitFirst, h]
      | cons b more =>
        simp only [splitFirst, h, if_false, Option.map_eq_some_iff, Prod.exists, Prod.mk.injEq,
          List.cons.injEq, List.cons_append, List.mem_cons, not_or]
        constructor
        · rintro ⟨a, d, found, ⟨rfl, rfl⟩, rfl⟩
          obtain ⟨rfl, absent⟩ := ih.1 found
          exact ⟨⟨rfl, rfl⟩, fun same => h same.symm, absent⟩
        · rintro ⟨⟨rfl, rfl⟩, -, absent⟩
          exact ⟨more, after, ih.2 ⟨rfl, absent⟩, ⟨rfl, rfl⟩, rfl⟩

/-- The last split finds a separator exactly when there is one. -/
theorem splitLast_eq_none_iff {separator : Char} {text : List Char} :
    splitLast separator text = none ↔ separator ∉ text := by
  induction text with
  | nil => simp [splitLast]
  | cons c rest ih =>
    unfold splitLast
    cases later : splitLast separator rest with
    | some parts =>
      have present : separator ∈ rest := by simpa [later] using ih
      simp [present]
    | none =>
      have absent : separator ∉ rest := ih.1 later
      by_cases h : c = separator
      · simp [h]
      · simp [h, absent, Ne.symm h]

/-- A separator that does not occur again is where the last split is. -/
theorem splitLast_append {separator : Char} (before : List Char) {after : List Char}
    (absent : separator ∉ after) :
    splitLast separator (before ++ separator :: after) = some (before, after) := by
  induction before with
  | nil => simp [splitLast, splitLast_eq_none_iff.2 absent]
  | cons c rest ih => simp [splitLast, ih]

/-- The parts of a last split, and what the last part does not hold. -/
theorem splitLast_eq_some_iff {separator : Char} {text before after : List Char} :
    splitLast separator text = some (before, after) ↔
      text = before ++ separator :: after ∧ separator ∉ after := by
  constructor
  · intro found
    induction text generalizing before with
    | nil => cases found
    | cons c rest ih =>
      unfold splitLast at found
      cases later : splitLast separator rest with
      | some parts =>
        rw [later] at found
        cases found
        obtain ⟨rfl, absent⟩ := ih later
        exact ⟨rfl, absent⟩
      | none =>
        have absent : separator ∉ rest := splitLast_eq_none_iff.1 later
        by_cases h : c = separator
        · obtain ⟨rfl, rfl⟩ : [] = before ∧ rest = after := by simpa [later, h] using found
          exact ⟨by rw [h, List.nil_append], absent⟩
        · simp [later, h] at found
  · rintro ⟨rfl, absent⟩
    exact splitLast_append before absent

end Vigil.Text
