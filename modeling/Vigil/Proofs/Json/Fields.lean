import Vigil.Json.Basic

/-!
# Fields in the order of their keys

A mapping has its keys in strict order, so each key comes once. Giving a key a value and taking keys
away keep the order. When fields are written over other fields, each key has the value that was
written last; fields that are in order already are written as they are.
-/

namespace Vigil.Json.Fields

variable {fields : Fields} {key name : String} {value : Json}

/-- The keys are in strict order. -/
def Ordered (fields : Fields) : Prop := fields.Pairwise fun a b => a.1 < b.1

/-- Fields written over other fields, one after the other. -/
def overwrite (base fields : Fields) : Fields :=
  fields.foldl (fun merged field => merged.insert field.1 field.2) base

/-- Of two different keys, the one that is not before the other is after it. -/
theorem lt_of_not_lt_of_ne (later : ¬key < name) (other : key ≠ name) : name < key := by
  refine Decidable.byContradiction fun earlier => other ?_
  exact String.le_antisymm (String.not_lt.1 earlier) (String.not_lt.1 later)

/-- A field after the insertion was there or is the new one. -/
theorem mem_of_mem_insert {field : String × Json} (among : field ∈ fields.insert key value) :
    field = (key, value) ∨ field ∈ fields := by
  induction fields with
  | nil => exact .inl (List.mem_singleton.1 among)
  | cons first rest ih =>
    unfold insert at among
    split at among
    · exact List.mem_cons.1 among
    · split at among
      · rcases List.mem_cons.1 among with here | later
        · exact .inl here
        · exact .inr (List.mem_cons_of_mem _ later)
      · rcases List.mem_cons.1 among with here | later
        · exact .inr (here ▸ List.mem_cons_self)
        · exact (ih later).imp_right (List.mem_cons_of_mem _)

/-- An insertion keeps the order. -/
theorem ordered_insert (ordered : fields.Ordered) (key : String) (value : Json) :
    (fields.insert key value).Ordered := by
  induction fields with
  | nil => exact List.pairwise_singleton _ _
  | cons first rest ih =>
    obtain ⟨before, others⟩ := List.pairwise_cons.1 ordered
    unfold insert
    split
    · rename_i earlier
      refine List.pairwise_cons.2 ⟨fun field among => ?_, ordered⟩
      rcases List.mem_cons.1 among with rfl | later
      · exact earlier
      · exact String.lt_trans earlier (before field later)
    · split
      · rename_i same
        exact List.pairwise_cons.2 ⟨fun field among => same ▸ before field among, others⟩
      · rename_i later other
        refine List.pairwise_cons.2 ⟨fun field among => ?_, ih others⟩
        rcases mem_of_mem_insert among with rfl | there
        · exact lt_of_not_lt_of_ne later other
        · exact before field there

/-- Taking a key away keeps the order. -/
theorem ordered_erase (ordered : fields.Ordered) (key : String) : (fields.erase key).Ordered :=
  List.Pairwise.filter _ ordered

/-- Writing fields over others keeps the order. -/
theorem ordered_overwrite (ordered : fields.Ordered) (written : Fields) :
    (fields.overwrite written).Ordered :=
  List.foldlRecOn written _ ordered fun _ before field _ => ordered_insert before field.1 field.2

/-- Fields that are put in order are in order. -/
theorem ordered_ofList (fields : List (String × Json)) : (ofList fields).Ordered :=
  ordered_overwrite List.Pairwise.nil fields

/-- Each field of the result was written or was there. -/
theorem mem_of_mem_overwrite {field : String × Json} (base : Fields)
    (among : field ∈ base.overwrite fields) : field ∈ base ∨ field ∈ fields := by
  induction fields generalizing base with
  | nil => exact .inl among
  | cons first rest ih =>
    rcases ih (base.insert first.1 first.2) among with before | later
    · rcases mem_of_mem_insert before with rfl | there
      · exact .inr List.mem_cons_self
      · exact .inl there
    · exact .inr (List.mem_cons_of_mem _ later)

/-- In a strict order no key comes twice. -/
theorem nodup_of_ordered (ordered : fields.Ordered) : (fields.map (·.1)).Nodup := by
  refine List.pairwise_map.2 (List.Pairwise.imp ?_ ordered)
  intro a b before same
  rw [same] at before
  exact String.lt_irrefl b.1 before

/-- A key that is not among the keys has no value. -/
theorem get?_eq_none (absent : key ∉ fields.map (·.1)) : fields.get? key = none := by
  refine Option.map_eq_none_iff.2 (List.find?_eq_none.2 fun field among => ?_)
  have other : field.1 ≠ key := fun same => absent (same ▸ List.mem_map_of_mem among)
  simpa using other

/-- The value of a key in longer fields is that of the first field, if it has the key. -/
theorem get?_cons (field : String × Json) (rest : Fields) (key : String) :
    get? (field :: rest) key = if field.1 = key then some field.2 else get? rest key := by
  by_cases here : field.1 = key <;> simp [get?, here]

/-- A field among fields with distinct keys is found. -/
theorem get?_of_mem (distinct : (fields.map (·.1)).Nodup) (among : (key, value) ∈ fields) :
    fields.get? key = some value := by
  induction fields with
  | nil => cases among
  | cons field rest ih =>
    obtain ⟨single, others⟩ := List.nodup_cons.1 distinct
    rw [get?_cons]
    rcases List.mem_cons.1 among with here | later
    · rw [if_pos (congrArg Prod.fst here).symm, ← here]
    · have other : field.1 ≠ key := by
        rintro rfl
        exact single (List.mem_map.2 ⟨_, later, rfl⟩)
      rw [if_neg other, ih others later]

/-- Of fields that are written over others, a key has the written value, or else the one before. -/
theorem get?_overwrite (base : Fields) (distinct : (fields.map (·.1)).Nodup) (key : String) :
    (base.overwrite fields).get? key = (fields.get? key).or (base.get? key) := by
  induction fields generalizing base with
  | nil => rfl
  | cons field rest ih =>
    obtain ⟨single, others⟩ := List.nodup_cons.1 distinct
    have written : (base.overwrite (field :: rest)).get? key =
        (get? rest key).or ((base.insert field.1 field.2).get? key) := ih _ others
    rw [written, get?_cons, get?_insert]
    by_cases here : field.1 = key
    · have later : get? rest key = none := get?_eq_none (here ▸ single)
      simp [here, later]
    · simp [here, Ne.symm here]

/-- Fields with distinct keys that are put in order keep their values. -/
theorem get?_ofList (distinct : (fields.map (·.1)).Nodup) (key : String) :
    (ofList fields).get? key = fields.get? key := by
  have written := get?_overwrite [] distinct key
  have nothing : get? [] key = none := rfl
  rwa [nothing, Option.or_none] at written

/-- A key after all others is inserted at the end. -/
theorem insert_of_forall_lt (last : ∀ field ∈ fields, field.1 < key) (value : Json) :
    fields.insert key value = fields ++ [(key, value)] := by
  induction fields with
  | nil => rfl
  | cons first rest ih =>
    have before := last first List.mem_cons_self
    have later : ¬key < first.1 := String.lt_asymm before
    have other : key ≠ first.1 := fun same => String.lt_irrefl _ (same ▸ before)
    have others : ∀ field ∈ rest, field.1 < key := fun field among =>
      last field (List.mem_cons_of_mem _ among)
    rw [insert, if_neg later, if_neg other, ih others]
    rfl

/-- Fields in order are appended to fields before all of them. -/
theorem overwrite_of_ordered {base : Fields} (ordered : (base ++ fields).Ordered) :
    base.overwrite fields = base ++ fields := by
  induction fields generalizing base with
  | nil => exact (List.append_nil base).symm
  | cons first rest ih =>
    have last : ∀ field ∈ base, field.1 < first.1 := fun field among =>
      (List.pairwise_append.1 ordered).2.2 field among first List.mem_cons_self
    change (base.insert first.1 first.2).overwrite rest = _
    rw [insert_of_forall_lt last, List.append_cons base first rest]
    exact ih (by rwa [← List.append_cons])

/-- Fields in order stay as they are when they are put in order. -/
theorem ofList_of_ordered (ordered : fields.Ordered) : ofList fields = fields := by
  have appended : Ordered ([] ++ fields) := ordered
  exact overwrite_of_ordered appended

end Vigil.Json.Fields
