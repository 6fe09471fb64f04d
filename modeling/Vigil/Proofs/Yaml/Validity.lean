import Vigil.Proofs.Json.Validity
import Vigil.Yaml.Value

/-!
# Valid values of documents

Every value that is read from a document is valid: an integer beyond 64 bits and a number that is
not finite have no value of their own, and the entries of a mapping are put in the order of their
keys.
-/

namespace Vigil.Yaml

/-- An integer that fits is a valid number. -/
theorem valid_integer {n : Int} (fits : fitsWord n = true) : (Json.number (.integer n)).Valid := by
  simp only [fitsWord, Bool.and_eq_true, decide_eq_true_eq] at fits
  exact .number fits

/-- A scalar that is written like a real is null or finite. -/
theorem valid_real? {text : List Char} {value : Json} (made : real? text = some value) :
    value.Valid := by
  unfold real? at made
  extract_lets body special at made
  split at made
  · cases made
  · split at made
    · cases made
      exact .null
    · obtain ⟨x, -, made⟩ := Option.bind_eq_some_iff.1 made
      split at made
      · rename_i finite
        cases made
        exact .number finite
      · cases made

/-- The value of a plain scalar is valid. -/
theorem valid_plainValue {text : List Char} {value : Json} (made : plainValue text = some value) :
    value.Valid := by
  unfold plainValue at made
  dsimp only at made
  split at made
  · cases made
    exact .null
  · split at made
    · cases made
      exact .bool _
    · split at made
      · split at made
        · rename_i fits
          cases made
          exact valid_integer fits
        · cases made
      · split at made
        · rename_i found
          cases made
          split at found
          · cases found
          · exact valid_real? found
        · cases made
          exact .text _

/-- The value of a scalar with a tag is valid. -/
theorem valid_taggedValue {tag text : List Char} {value : Json}
    (made : taggedValue tag text = some value) : value.Valid := by
  unfold taggedValue at made
  dsimp only at made
  split at made
  · cases made
  · split at made
    · obtain ⟨b, -, rfl⟩ := Option.map_eq_some_iff.1 made
      exact .bool b
    · split at made
      · obtain ⟨n, -, made⟩ := Option.bind_eq_some_iff.1 made
        split at made
        · rename_i fits
          cases made
          exact valid_integer fits
        · cases made
      · split at made
        · exact valid_real? made
        · split at made
          · split at made
            · cases made
              exact .null
            · cases made
          · cases made
            exact .text _

/-- The value of a scalar is valid. -/
theorem valid_scalarValue {text tag : List Char} {plain : Bool} {value : Json}
    (made : scalarValue text plain tag = some value) : value.Valid := by
  unfold scalarValue at made
  split at made
  · exact valid_taggedValue made
  · split at made
    · exact valid_plainValue made
    · cases made
      exact .text _

/-- What a computation gives for the elements of a list has a property that it gives each element
for itself. -/
theorem forall_of_forEach {α β : Type} {f : α → Counting β} {P : β → Prop}
    (each : ∀ x left y later, f x left = some (y, later) → P y) {xs : List α} {ys : List β}
    {left later : Nat} (made : forEach f xs left = some (ys, later)) : ∀ y ∈ ys, P y := by
  induction xs generalizing ys left later with
  | nil =>
    cases made
    intro y none
    cases none
  | cons x rest ih =>
    obtain ⟨⟨y, middle⟩, first, made⟩ := Option.bind_eq_some_iff.1 made
    obtain ⟨⟨others, last⟩, more, made⟩ := Option.bind_eq_some_iff.1 made
    cases made
    exact List.forall_mem_cons.2 ⟨each x left y middle first, ih more⟩

/-- The value of a node is valid. The recursion is on the depth that is left: the items of a node
lie one deeper. -/
theorem valid_valueOf {depth : Nat} {node : Node} {left later : Nat} {value : Json}
    (made : valueOf depth node left = some (value, later)) : value.Valid := by
  induction depth generalizing node left later value with
  | zero =>
    obtain ⟨found, -, made⟩ := Option.bind_eq_some_iff.1 made
    split at made
    · obtain ⟨scalar, read, made⟩ := Option.bind_eq_some_iff.1 made
      cases made
      exact valid_scalarValue read
    · cases made
  | succ depth ih =>
    obtain ⟨found, -, made⟩ := Option.bind_eq_some_iff.1 made
    split at made
    · obtain ⟨scalar, read, made⟩ := Option.bind_eq_some_iff.1 made
      cases made
      exact valid_scalarValue read
    · split at made
      · cases made
      · obtain ⟨⟨values, last⟩, items, made⟩ := Option.bind_eq_some_iff.1 made
        cases made
        exact .list (forall_of_forEach (fun _ _ _ _ => ih) items)
    · split at made
      · cases made
      · obtain ⟨⟨fields, last⟩, entries, made⟩ := Option.bind_eq_some_iff.1 made
        cases made
        refine Json.valid_ofList (forall_of_forEach (fun entry start field rest one => ?_) entries)
        obtain ⟨⟨key, next⟩, -, one⟩ := Option.bind_eq_some_iff.1 one
        obtain ⟨⟨held, last⟩, read, one⟩ := Option.bind_eq_some_iff.1 one
        cases one
        exact ih read
    · cases made

/-- Every value that is read from a document is valid. -/
theorem valid_of_read {text : List Char} {value : Json} (reads : read text = some value) :
    value.Valid := by
  obtain ⟨tokens, -, reads⟩ := Option.bind_eq_some_iff.1 reads
  obtain ⟨found, -, reads⟩ := Option.bind_eq_some_iff.1 reads
  split at reads
  · cases reads
    exact .null
  · obtain ⟨⟨root, left⟩, made, rfl⟩ := Option.map_eq_some_iff.1 reads
    exact valid_valueOf made

end Vigil.Yaml
