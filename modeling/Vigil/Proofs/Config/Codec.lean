import Vigil.Config.Decoding
import Vigil.Config.Encoding
import Vigil.Proofs.Json.Validity
import Vigil.Proofs.Traversal

/-!
# Encoding and decoding the settings

Each kind of setting has an encoding and a decoder with two laws. A setting that can be written is
decoded from its encoding, and every setting that is decoded from a valid value can be written. The
second law is about all values, also those that no encoding gives: an integer for a number of
seconds, a key without a value for a choice, a list for a structure.
-/

namespace Vigil

/-- A number of seconds is finite. -/
def IntervalSetting.Valid : IntervalSetting → Prop
  | seconds x => x.isFinite = true
  | text _ => True

namespace Config

open Json (Fields)

variable {α β : Type} {good : α → Prop} {encode : α → Json} {decode : Json → Option α}
  {members : Members} {place : Nat} {name : String} {x : α}

/-- The laws of an encoding and a decoder of the settings with a property. -/
structure Exact (good : α → Prop) (encode : α → Json) (decode : Json → Option α) : Prop where
  /-- A setting is decoded from its encoding. -/
  lawful : ∀ x, good x → decode (encode x) = some x
  /-- A setting that is decoded from a valid value has the property. -/
  admits : ∀ value x, value.Valid → decode value = some x → good x

/-- An exact encoding that leaves null to a missing setting. -/
structure Definite (good : α → Prop) (encode : α → Json) (decode : Json → Option α) : Prop
    extends Exact good encode decode where
  /-- No setting is encoded as null. -/
  present : ∀ x, good x → encode x ≠ .null

/-! ## Texts, choices and numbers -/

/-- Texts are kept. -/
theorem text_exact : Definite (fun _ => True) Json.text text where
  lawful _ _ := rfl
  admits _ _ _ _ := trivial
  present _ _ := nofun

/-- Booleans are kept. -/
theorem bool_exact : Definite (fun _ => True) Json.bool bool where
  lawful _ _ := rfl
  admits _ _ _ _ := trivial
  present _ _ := nofun

/-- Levels keep their names. -/
theorem level_exact : Definite (fun _ => True) ofLevel level where
  lawful l _ := Level.ofName?_name l
  admits _ _ _ _ := trivial
  present _ _ := nofun

/-- Value formats keep their names. -/
theorem format_exact : Definite (fun _ => True) ofFormat format where
  lawful f _ := ValueFormat.ofName?_name f
  admits _ _ _ _ := trivial
  present _ _ := nofun

/-- Reductions keep their names. -/
theorem reduction_exact : Definite (fun _ => True) (fun r => Json.text r.name) reduction where
  lawful r _ := Graphite.Reduction.ofName?_name r
  admits _ _ _ _ := trivial
  present _ _ := nofun

/-- Finite numbers are kept. -/
theorem number_exact : Definite (fun x : Double => x.isFinite = true) ofNumber number := by
  refine ⟨⟨?_, ?_⟩, fun x finite => ?_⟩
  · intro x finite
    rw [ofNumber, if_pos finite]
    rfl
  · intro value x valid decoded
    cases valid with
    | number known =>
      cases decoded
      exact Json.Number.isFinite_toDouble known
    | null | bool | text | list | object => cases decoded
  · rw [ofNumber, if_pos finite]
    nofun

/-- Interval settings are kept, numbers and texts apart. -/
theorem intervalSetting_exact :
    Definite IntervalSetting.Valid ofIntervalSetting intervalSetting := by
  have seconds (x : Double) (finite : x.isFinite = true) :
      ofIntervalSetting (.seconds x) = .number (.real x) := if_pos finite
  refine ⟨⟨?_, ?_⟩, ?_⟩
  · rintro (x | s) valid
    · rw [seconds x valid]
      rfl
    · rfl
  · intro value x valid decoded
    cases valid with
    | number known =>
      cases decoded
      exact Json.Number.isFinite_toDouble known
    | text =>
      cases decoded
      trivial
    | null | bool | list | object => cases decoded
  · rintro (x | s) valid
    · rw [seconds x valid]
      nofun
    · nofun

/-! ## Settings of several parts -/

/-- A setting that may be missing is exact, as nothing else is encoded as null. -/
theorem Definite.nullable (exact : Definite good encode decode) :
    Exact (fun found : Option α => ∀ x ∈ found, good x) (ofNullable encode)
      (nullable decode) := by
  constructor
  · rintro (_ | x) known
    · rfl
    · have here : good x := known x rfl
      unfold ofNullable Config.nullable
      split
      · rename_i null
        exact (exact.present x here null).elim
      · rw [exact.lawful x here]
        rfl
  · intro value found valid decoded x here
    unfold Config.nullable at decoded
    split at decoded
    · cases decoded
      cases here
    · obtain ⟨y, read, rfl⟩ := Option.map_eq_some_iff.1 decoded
      exact Option.some.inj here ▸ exact.admits value y valid read

/-- A list is exact as its items are. -/
theorem Exact.list (exact : Exact good encode decode) :
    Exact (fun xs : List α => ∀ x ∈ xs, good x) (fun xs => .list (xs.map encode))
      (list decode) := by
  constructor
  · intro xs known
    change (xs.map encode).mapM decode = some xs
    rw [mapM_eq_some_iff, List.map_map]
    exact List.map_congr_left fun x among => exact.lawful x (known x among)
  · intro value xs valid decoded x among
    cases valid with
    | @list items each =>
      have read : items.map decode = xs.map some := (mapM_eq_some_iff decode items xs).1 decoded
      obtain ⟨item, here, decodes⟩ := List.mem_map.1 (read ▸ List.mem_map_of_mem among)
      exact exact.admits item x (each item here) decodes
    | null | bool | number | text | object => cases decoded

/-- Texts by name. -/
def ofTextFields (texts : List (String × String)) : Json :=
  .object (Fields.ofList (texts.map fun field => (field.1, .text field.2)))

/-- The names of texts are in order as their keys are. -/
theorem ordered_texts {texts : List (String × String)} :
    Fields.Ordered (texts.map fun field => (field.1, Json.text field.2)) ↔
      texts.Pairwise fun a b => a.1 < b.1 :=
  List.pairwise_map

/-- Texts in the order of their names are exact. Decoding keeps the keys, so the order of the names
is that of the fields. -/
theorem textFields_exact :
    Exact (fun texts : List (String × String) => texts.Pairwise fun a b => a.1 < b.1)
      ofTextFields textFields := by
  constructor
  · intro texts ordered
    rw [ofTextFields, Fields.ofList_of_ordered (ordered_texts.2 ordered)]
    change (texts.map _).mapM _ = some texts
    rw [mapM_eq_some_iff, List.map_map]
    rfl
  · intro value texts valid decoded
    cases valid with
    | @object fields ordered each =>
      have same : fields = texts.map fun field => (field.1, Json.text field.2) := by
        clear ordered each
        change fields.mapM _ = some texts at decoded
        induction fields generalizing texts with
        | nil =>
          cases decoded
          rfl
        | cons field rest ih =>
          rw [List.mapM_cons] at decoded
          obtain ⟨named, first, decoded⟩ := Option.bind_eq_some_iff.1 decoded
          obtain ⟨others, more, decoded⟩ := Option.bind_eq_some_iff.1 decoded
          cases decoded
          obtain ⟨key, value⟩ := field
          cases value with
          | text s =>
            cases first
            rw [ih others more]
            rfl
          | null | bool | number | list | object => cases first
      rw [same] at ordered
      exact ordered_texts.1 ordered
    | null | bool | number | text | list => cases decoded

/-! ## The fields of structures -/

/-- All members are valid. -/
def Members.Valid (members : Members) : Prop :=
  ∀ place name value, members.get? place name = some value → value.Valid

/-- The members of a valid value are valid. -/
theorem Members.valid_of? {count : Nat} {value : Json} (valid : value.Valid)
    (taken : Members.of? count value = some members) : members.Valid := by
  intro place name member found
  cases valid with
  | @object fields ordered each =>
    cases taken
    obtain ⟨field, among, rfl⟩ := Option.map_eq_some_iff.1 found
    exact each field (List.mem_of_find?_eq_some among)
  | @list items each =>
    change (if items.length ≤ count then some (placed items) else none) = some members at taken
    split at taken
    · cases taken
      exact each member (List.mem_of_getElem? found)
    · cases taken
  | null | bool | number | text => cases taken

/-- Fields with distinct keys that are put in order are found by name. -/
theorem Members.get?_named {entries : Fields} (distinct : (entries.map (·.1)).Nodup)
    {value : Json} (written : entries[place]? = some (name, value)) :
    (Members.named (Fields.ofList entries)).get? place name = some value := by
  have found := Fields.get?_of_mem distinct (List.mem_of_getElem? written)
  exact (Fields.get?_ofList distinct name).trans found

/-- A field with a default is decoded, if it is there, and decoding goes on with it. -/
theorem Exact.bind_withDefault (exact : Exact good encode decode) (known : good x)
    (member : members.get? place name = some (encode x)) {default : α} (rest : α → Option β) :
    (members.withDefault place name default decode).bind rest = rest x := by
  rw [Members.withDefault, member]
  change (decode (encode x)).bind rest = rest x
  rw [exact.lawful x known, Option.bind_some]

/-- A field that must be there is decoded, and decoding goes on with it. -/
theorem Exact.bind_required (exact : Exact good encode decode) (known : good x)
    (member : members.get? place name = some (encode x)) (rest : α → Option β) :
    (members.required place name decode).bind rest = rest x := by
  rw [Members.required, member, Option.bind_some, exact.lawful x known, Option.bind_some]

/-- A field that may be left out is decoded, if it is there or null, and decoding goes on with
it. -/
theorem Definite.bind_optional (exact : Definite good encode decode) {found : Option α}
    (known : ∀ x ∈ found, good x)
    (member : members.get? place name = some (ofNullable encode found))
    (rest : Option α → Option β) :
    (members.optional place name decode).bind rest = rest found := by
  have decoded : members.optional place name decode = some found := by
    have decoded := exact.nullable.lawful found known
    unfold Members.optional
    rw [member]
    generalize ofNullable encode found = value at decoded
    cases members <;> cases value <;> exact decoded
  rw [decoded, Option.bind_some]

/-- A field with a default has the property. -/
theorem Exact.of_withDefault (exact : Exact good encode decode) (valid : members.Valid)
    {default : α} (fallback : good default)
    (decoded : members.withDefault place name default decode = some x) : good x := by
  unfold Members.withDefault at decoded
  split at decoded
  · rename_i value found
    exact exact.admits value x (valid place name value found) decoded
  · cases decoded
    exact fallback

/-- A field that may be left out has the property. -/
theorem Exact.of_optional (exact : Exact good encode decode) (valid : members.Valid)
    {found : Option α} (decoded : members.optional place name decode = some found) :
    ∀ x ∈ found, good x := by
  unfold Members.optional at decoded
  split at decoded
  · cases decoded
    exact fun x none => nomatch none
  · cases decoded
  · cases decoded
    exact fun x none => nomatch none
  · rename_i value _ there
    obtain ⟨y, read, rfl⟩ := Option.map_eq_some_iff.1 decoded
    intro x here
    exact Option.some.inj here ▸ exact.admits value y (valid place name value there) read

end Config

end Vigil
