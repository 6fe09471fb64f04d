/-!
# Tables

A table gives values to keys and keeps the keys in the order in which they came.
Setting a key that is there replaces its value in place.
-/

namespace Vigil

/-- Keys with their values, in the order in which the keys came. -/
structure Table (κ α : Type) where
  entries : List (κ × α)

namespace Table

variable {κ α : Type} [DecidableEq κ]

/-- A table without keys. -/
def empty : Table κ α := ⟨[]⟩

/-- The value of a key. -/
def get? (table : Table κ α) (key : κ) : Option α :=
  (table.entries.find? fun entry => entry.1 = key).map (·.2)

/-- Whether a key has a value. -/
def contains (table : Table κ α) (key : κ) : Bool := (table.get? key).isSome

/-- The entries after a key gets a value. -/
def setEntries (key : κ) (value : α) : List (κ × α) → List (κ × α)
  | [] => [(key, value)]
  | entry :: rest =>
      if entry.1 = key then (key, value) :: rest else entry :: setEntries key value rest

/-- Gives a key a value. -/
def set (table : Table κ α) (key : κ) (value : α) : Table κ α :=
  ⟨setEntries key value table.entries⟩

/-- The keys in the order in which they came. -/
def keys (table : Table κ α) : List κ := table.entries.map (·.1)

/-- The values in the order of their keys. -/
def values (table : Table κ α) : List α := table.entries.map (·.2)

/-- The table with every value changed. -/
def map (f : α → α) (table : Table κ α) : Table κ α :=
  ⟨table.entries.map fun entry => (entry.1, f entry.2)⟩

/-- The table with the value of one key changed. -/
def update (table : Table κ α) (key : κ) (f : α → α) : Table κ α :=
  ⟨table.entries.map fun entry => (entry.1, if entry.1 = key then f entry.2 else entry.2)⟩

/-- An empty table has no value. -/
@[simp] theorem get?_empty (key : κ) : (empty : Table κ α).get? key = none := rfl

/-- The value that was set is found, and no other key is touched. -/
theorem get?_set (table : Table κ α) (key other : κ) (value : α) :
    (table.set key value).get? other = if other = key then some value else table.get? other := by
  obtain ⟨entries⟩ := table
  simp only [get?, set]
  induction entries with
  | nil => simp [setEntries, eq_comm]
  | cons entry rest ih =>
    unfold setEntries
    by_cases here : entry.1 = key
    · by_cases same : other = key
      · simp [here, same]
      · simp [here, same, Ne.symm same]
    · by_cases found : entry.1 = other
      · have : other ≠ key := fun eq => here (found.trans eq)
        simp [found, this]
      · simp [here, found, ih]

/-- A key has a value when it is among the keys. -/
theorem contains_iff (table : Table κ α) (key : κ) :
    table.contains key = true ↔ key ∈ table.keys := by
  simp [contains, get?, keys]

/-- A key that had no value comes last. -/
theorem keys_set (table : Table κ α) {key : κ} (fresh : key ∉ table.keys) (value : α) :
    (table.set key value).keys = table.keys ++ [key] := by
  obtain ⟨entries⟩ := table
  simp only [keys, set] at fresh ⊢
  induction entries with
  | nil => rfl
  | cons entry rest ih =>
    have other : key ≠ entry.1 := List.ne_of_not_mem_cons fresh
    simp [setEntries, Ne.symm other, ih (List.not_mem_of_not_mem_cons fresh)]

omit [DecidableEq κ] in
/-- Changing every value leaves the keys alone. -/
@[simp] theorem keys_map (f : α → α) (table : Table κ α) : (table.map f).keys = table.keys := by
  simp [keys, map]

omit [DecidableEq κ] in
/-- Changing every value changes each of the values. -/
@[simp] theorem values_map (f : α → α) (table : Table κ α) :
    (table.map f).values = table.values.map f := by
  simp [values, map]

/-- The value of a key is among the values. -/
theorem mem_values_of_get? {table : Table κ α} {key : κ} {value : α}
    (found : table.get? key = some value) : value ∈ table.values := by
  obtain ⟨entry, first, rfl⟩ := Option.map_eq_some_iff.1 found
  exact List.mem_map_of_mem (List.mem_of_find?_eq_some first)

/-- Where no key comes twice, each of the values is that of a key. -/
theorem exists_get?_of_mem_values {table : Table κ α} (distinct : table.keys.Nodup) {value : α}
    (among : value ∈ table.values) : ∃ key, table.get? key = some value := by
  obtain ⟨entries⟩ := table
  obtain ⟨entry, member, rfl⟩ := List.mem_map.1 among
  refine ⟨entry.1, ?_⟩
  simp only [get?, keys] at distinct member ⊢
  clear among
  induction entries with
  | nil => cases member
  | cons first rest ih =>
    obtain ⟨single, others⟩ := List.nodup_cons.1 distinct
    rcases List.mem_cons.1 member with rfl | later
    · simp
    · have listed : entry.1 ∈ rest.map (·.1) := List.mem_map_of_mem later
      have other : first.1 ≠ entry.1 := by
        intro same
        exact single (by simpa only [same] using listed)
      simpa [other] using ih others later

/-- Changing every value changes the value of each key. -/
theorem get?_map (f : α → α) (table : Table κ α) (key : κ) :
    (table.map f).get? key = (table.get? key).map f := by
  obtain ⟨entries⟩ := table
  simp only [get?, map]
  induction entries with
  | nil => rfl
  | cons entry rest ih =>
    by_cases here : entry.1 = key
    · simp [here]
    · simpa [here] using ih

end Table

end Vigil
