import Vigil.Files

/-!
# Files that are written and removed

The place of a path does not depend on the files there are, only whether the path leads there does.
A file that was written is found under its path, and when it is removed, no other file is touched.
-/

namespace Vigil

namespace Table

variable {κ α : Type} [DecidableEq κ]

/-- A key stays when another one gets a value. -/
theorem mem_keys_set {table : Table κ α} {other : κ} (among : other ∈ table.keys) (key : κ)
    (value : α) : other ∈ (table.set key value).keys := by
  rw [← contains_iff, contains] at among ⊢
  rw [get?_set]
  split
  · rfl
  · exact among

/-- Without the entries of a key, only that key has lost its value. -/
theorem get?_filter_ne (table : Table κ α) (key other : κ) :
    (Table.mk (table.entries.filter fun entry => entry.1 ≠ key)).get? other =
      if other = key then none else table.get? other := by
  unfold get?
  rw [List.find?_filter]
  split
  · rename_i here
    refine Option.map_eq_none_iff.2 (List.find?_eq_none.2 fun entry _ => ?_)
    simp [here]
  · rename_i elsewhere
    congr 2
    funext entry
    by_cases found : entry.1 = other <;> simp [found, elsewhere]

end Table

namespace Files

variable {files next : Files} {base place found : Place} {path : String} {steps : List String}
  {bytes : List UInt8}

/-- Where components lead from a place, if every step but the last leads to a directory. -/
def walk (place : Place) : List String → Place
  | [] => place
  | step :: rest =>
      if step = "" ∨ step = "." then walk place rest
      else if step = ".." then walk place.dropLast rest
      else walk (place ++ [step]) rest

/-- Where a path leads from a directory, if it leads anywhere. -/
def target (base : Place) (path : String) : Place :=
  walk (if path.toList.head? = some '/' then [] else base) (components path)

/-- Components lead to one place at most. -/
theorem eq_walk_of_follow (leads : files.follow place steps = some found) :
    found = walk place steps := by
  induction steps generalizing place with
  | nil =>
    cases leads
    rfl
  | cons step rest ih =>
    unfold follow at leads
    unfold walk
    split at leads
    · cases leads
    · split at leads
      · rename_i here
        rw [if_pos here]
        exact ih leads
      · rename_i elsewhere
        rw [if_neg elsewhere]
        split at leads
        · rename_i up
          rw [if_pos up]
          exact ih leads
        · rename_i down
          rw [if_neg down]
          exact ih leads

/-- A path leads to its place or nowhere. -/
theorem eq_target_of_resolve (leads : files.resolve base path = some found) :
    found = target base path :=
  eq_walk_of_follow leads

/-- Components lead to the same place when there are more directories. -/
theorem follow_of_directories
    (directories : ∀ place, files.isDirectory place = true → next.isDirectory place = true)
    (leads : files.follow place steps = some found) : next.follow place steps = some found := by
  induction steps generalizing place with
  | nil => exact leads
  | cons step rest ih =>
    unfold follow at leads ⊢
    split at leads
    · cases leads
    · rename_i directory
      have here : next.isDirectory place = true := directories place (by simpa using directory)
      rw [if_neg (by simp [here])]
      split at leads
      · rename_i same
        rw [if_pos same]
        exact ih leads
      · rename_i elsewhere
        rw [if_neg elsewhere]
        split at leads
        · rename_i up
          rw [if_pos up]
          exact ih leads
        · rename_i down
          rw [if_neg down]
          exact ih leads

/-- A file that is written takes no directory away. -/
theorem isDirectory_set (directory : files.isDirectory place = true) (found : Place)
    (bytes : List UInt8) :
    Files.isDirectory { files with contents := files.contents.set found bytes } place = true := by
  simp only [isDirectory, Bool.or_eq_true, List.any_eq_true] at directory ⊢
  rcases directory with first | ⟨key, among, within⟩
  · exact .inl first
  · exact .inr ⟨key, Table.mem_keys_set among found bytes, within⟩

/-- A file that was written is found under its path, and the others are as they were. -/
theorem write?_eq_some (wrote : files.write? base path bytes = some next) :
    next.resolve base path = some (target base path) ∧
      ∀ place, next.contents.get? place =
        if place = target base path then some bytes else files.contents.get? place := by
  unfold write? at wrote
  split at wrote
  · rename_i found leads
    split at wrote
    · cases wrote
    · cases wrote
      obtain rfl := eq_target_of_resolve leads
      exact ⟨follow_of_directories (fun _ there => isDirectory_set there _ bytes) leads,
        fun place => Table.get?_set _ _ _ _⟩
  · cases wrote

/-- A file that is there can be removed, and the others stay as they are. -/
theorem exists_remove? (leads : files.resolve base path = some place)
    (there : files.contents.contains place = true) :
    ∃ next, files.remove? base path = some next ∧
      ∀ other, next.contents.get? other =
        if other = place then none else files.contents.get? other := by
  unfold remove?
  rw [leads]
  dsimp only
  rw [if_pos there]
  exact ⟨_, rfl, Table.get?_filter_ne files.contents place⟩

/-- Nothing is read where no file is. -/
theorem read?_eq_none (absent : files.contents.get? (target base path) = none) :
    files.read? base path = none := by
  unfold read?
  cases leads : files.resolve base path with
  | none => rfl
  | some found =>
    obtain rfl := eq_target_of_resolve leads
    exact absent

end Files

end Vigil
