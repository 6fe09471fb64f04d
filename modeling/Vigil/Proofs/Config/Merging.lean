import Mathlib.Data.List.Forall2
import Vigil.Config.Loading
import Vigil.Proofs.Yaml.Validity

/-!
# What a configuration is merged from

A configuration is merged from a file and the files that it includes. For every key but two, the
last file that has the key gives its value. No list of included files remains. The lists of alerts
are joined in the order of the files, so that no alert is lost, repeated or moved; a value for the
alerts that is not a list counts in the first file alone, and only while no other file has a list.
-/

namespace Vigil.Config

open Json (Fields)

/-- The list of alerts of a mapping, if it has one. -/
def alertList? (fields : Fields) : Option (List Json) :=
  match fields.get? alertsKey with
  | some (.list alerts) => some alerts
  | _ => none

/-- The mapping merged from the mapping of a file and those of the files that it includes. -/
structure Merged (main : Fields) (overlays : List Fields) (merged : Fields) : Prop where
  ordered : merged.Ordered
  /-- The last file that has a key gives its value. -/
  others : ∀ key, key ≠ alertsKey → key ≠ includeKey →
    merged.get? key = ((main :: overlays).filterMap (·.get? key)).getLast?
  /-- Nothing remains to be included, whatever the included files say. -/
  includes : merged.get? includeKey = none
  /-- One list of alerts in an included file is enough to have all lists joined. -/
  joined : (∃ overlay ∈ overlays, (alertList? overlay).isSome) →
    merged.get? alertsKey = some (.list ((main :: overlays).filterMap alertList?).flatten)
  /-- Otherwise the alerts are what the first file says. -/
  kept : (∀ overlay ∈ overlays, alertList? overlay = none) →
    merged.get? alertsKey = main.get? alertsKey

/-! ## Reading -/

/-- The value in a file is valid, in either notation. -/
theorem valid_of_readValue {files : Files} {base : Place} {path : String} {value : Json}
    (reads : readValue files base path = .ok value) : value.Valid := by
  unfold readValue at reads
  split at reads
  · cases reads
  · split at reads
    · split at reads
      · rename_i found
        cases reads
        exact Yaml.valid_of_read found
      · cases reads
    · split at reads
      · rename_i found
        cases reads
        exact Json.valid_of_read found
      · cases reads

/-- The mapping in a file has its keys in order. -/
theorem ordered_of_readFields {files : Files} {base : Place} {path : String} {fields : Fields}
    (reads : readFields files base path = .ok fields) : fields.Ordered := by
  unfold readFields at reads
  split at reads
  · cases reads
  · rename_i found
    cases reads
    cases valid_of_readValue found with
    | object ordered each => exact ordered
  · cases reads
    exact List.Pairwise.nil
  · cases reads

/-! ## Merging one file -/

variable {base overlay merged main : Fields} {overlays : List Fields} {key : String}

/-- A mapping has a list of alerts when the key of the alerts has a list. -/
theorem alertList?_eq_some_iff {fields : Fields} {alerts : List Json} :
    alertList? fields = some alerts ↔ fields.get? alertsKey = some (.list alerts) := by
  unfold alertList?
  split <;> simp_all

/-- Without a list of alerts, nothing is joined. -/
theorem mergeAlerts_of_none (unlisted : alertList? overlay = none) :
    mergeAlerts base overlay = base := by
  unfold mergeAlerts
  split
  · rename_i found
    rw [alertList?_eq_some_iff.2 found] at unlisted
    cases unlisted
  · rfl

/-- A list of alerts comes behind the list that is there. -/
theorem get?_mergeAlerts_of_some {more : List Json} (listed : alertList? overlay = some more) :
    (mergeAlerts base overlay).get? alertsKey =
      some (.list ((alertList? base).getD [] ++ more)) := by
  unfold mergeAlerts
  rw [alertList?_eq_some_iff.1 listed]
  dsimp only
  split
  · rename_i found
    rw [Fields.get?_insert, if_pos rfl, alertList?_eq_some_iff.2 found]
    rfl
  · rename_i unlisted
    have absent : alertList? base = none :=
      Option.eq_none_iff_forall_ne_some.2 fun alerts found =>
        unlisted alerts (alertList?_eq_some_iff.1 found)
    rw [Fields.get?_insert, if_pos rfl, absent]
    rfl

/-- Joining the alerts touches no other key. -/
theorem get?_mergeAlerts_of_ne (other : key ≠ alertsKey) :
    (mergeAlerts base overlay).get? key = base.get? key := by
  unfold mergeAlerts
  split
  · split <;> rw [Fields.get?_insert, if_neg other]
  · rfl

/-- Joining the alerts keeps the order of the keys. -/
theorem ordered_mergeAlerts (ordered : base.Ordered) : (mergeAlerts base overlay).Ordered := by
  unfold mergeAlerts
  split
  · split <;> exact Fields.ordered_insert ordered _ _
  · exact ordered

/-- Merging keeps the order of the keys. -/
theorem ordered_merge (ordered : base.Ordered) : (merge base overlay).Ordered :=
  Fields.ordered_overwrite (ordered_mergeAlerts ordered) _

/-- Every key but that of the alerts has the merged value, or else the one before. -/
theorem get?_merge_of_ne (ordered : overlay.Ordered) (other : key ≠ alertsKey) :
    (merge base overlay).get? key = (overlay.get? key).or (base.get? key) := by
  have distinct := Fields.nodup_of_ordered (Fields.ordered_erase ordered alertsKey)
  have written : (merge base overlay).get? key =
      ((overlay.erase alertsKey).get? key).or ((mergeAlerts base overlay).get? key) :=
    Fields.get?_overwrite _ distinct key
  rw [written, Fields.get?_erase, if_neg other, get?_mergeAlerts_of_ne other]

/-- The alerts are those that were joined. -/
theorem get?_merge_alerts (ordered : overlay.Ordered) :
    (merge base overlay).get? alertsKey = (mergeAlerts base overlay).get? alertsKey := by
  have distinct := Fields.nodup_of_ordered (Fields.ordered_erase ordered alertsKey)
  have written : (merge base overlay).get? alertsKey =
      ((overlay.erase alertsKey).get? alertsKey).or ((mergeAlerts base overlay).get? alertsKey) :=
    Fields.get?_overwrite _ distinct alertsKey
  rw [written, Fields.get?_erase, if_pos rfl, Option.none_or]

/-- The list of alerts does not depend on what is included. -/
theorem alertList?_erase (fields : Fields) :
    alertList? (fields.erase includeKey) = alertList? fields := by
  have other : alertsKey ≠ includeKey := by decide
  unfold alertList?
  rw [Fields.get?_erase, if_neg other]

/-! ## Merging all files -/

/-- The alerts so far are the lists of all files so far. -/
theorem Merged.getD_alertList? (so : Merged main overlays merged) :
    (alertList? merged).getD [] = ((main :: overlays).filterMap alertList?).flatten := by
  by_cases listed : ∃ overlay ∈ overlays, (alertList? overlay).isSome
  · have joined := so.joined listed
    unfold alertList? at joined ⊢
    rw [joined]
    rfl
  · have without : ∀ overlay ∈ overlays, alertList? overlay = none := fun overlay among =>
      Option.not_isSome_iff_eq_none.1 fun some => listed ⟨overlay, among, some⟩
    have nothing : overlays.filterMap alertList? = [] := List.filterMap_eq_nil_iff.2 without
    have same : alertList? merged = alertList? main := by
      unfold alertList?
      rw [so.kept without]
    rw [same]
    cases alone : alertList? main <;> simp [alone, nothing]

/-- The mapping of a file without its list of included files is merged from no other file. -/
theorem merged_nil (ordered : main.Ordered) : Merged main [] (main.erase includeKey) where
  ordered := Fields.ordered_erase ordered includeKey
  others key _ other := by
    rw [Fields.get?_erase, if_neg other]
    cases found : main.get? key <;> simp [found]
  includes := by rw [Fields.get?_erase, if_pos rfl]
  joined := by simp
  kept _ := by
    have other : alertsKey ≠ includeKey := by decide
    rw [Fields.get?_erase, if_neg other]

/-- One file more is merged into what was merged so far. -/
theorem Merged.merge (so : Merged main overlays merged) (ordered : overlay.Ordered) :
    Merged main (overlays ++ [overlay]) (merge merged (overlay.erase includeKey)) := by
  have erased := Fields.ordered_erase ordered includeKey
  have distinct : includeKey ≠ alertsKey := by decide
  have alerts : (Config.merge merged (overlay.erase includeKey)).get? alertsKey =
      (mergeAlerts merged (overlay.erase includeKey)).get? alertsKey := get?_merge_alerts erased
  refine ⟨ordered_merge so.ordered, ?others, ?includes, ?joined, ?kept⟩
  case others =>
    intro key notAlerts notInclude
    rw [get?_merge_of_ne erased notAlerts, Fields.get?_erase, if_neg notInclude,
      so.others key notAlerts notInclude, ← List.cons_append, List.filterMap_append,
      List.getLast?_append]
    cases found : overlay.get? key <;> simp [found]
  case includes =>
    rw [get?_merge_of_ne erased distinct, Fields.get?_erase, if_pos rfl, so.includes]
    rfl
  case joined =>
    rintro ⟨listed, among, some⟩
    rw [alerts, ← List.cons_append, List.filterMap_append, List.flatten_append]
    cases found : alertList? overlay with
    | none =>
      have before : listed ∈ overlays := by
        rcases List.mem_append.1 among with before | last
        · exact before
        · rw [List.mem_singleton.1 last, found] at some
          cases some
      rw [mergeAlerts_of_none ((alertList?_erase overlay).trans found),
        so.joined ⟨listed, before, some⟩]
      simp [found]
    | some more =>
      rw [get?_mergeAlerts_of_some ((alertList?_erase overlay).trans found), so.getD_alertList?]
      simp [found]
  case kept =>
    intro without
    have here := without overlay (List.mem_append_right _ List.mem_cons_self)
    have before : ∀ earlier ∈ overlays, alertList? earlier = none := fun earlier among =>
      without earlier (List.mem_append_left _ among)
    rw [alerts, mergeAlerts_of_none ((alertList?_erase overlay).trans here), so.kept before]

/-- All files are merged, one after the other. -/
theorem Merged.mergeIncludes {files : Files} {base : Place} {paths : List String}
    {done : List Fields} (so : Merged main done merged)
    (reads : List.Forall₂ (fun path fields => readFields files base path = .ok fields) paths
      overlays) :
    ∃ result, mergeIncludes files base merged paths = (paths, .ok result) ∧
      Merged main (done ++ overlays) result := by
  induction reads generalizing merged done with
  | nil => exact ⟨merged, rfl, by rwa [List.append_nil]⟩
  | @cons path overlay paths overlays first _ ih =>
    obtain ⟨result, merges, all⟩ := ih (so.merge (ordered_of_readFields first))
    refine ⟨result, ?_, by rwa [List.append_cons]⟩
    rw [Config.mergeIncludes, first]
    dsimp only
    rw [merges]

/-- Options are decoded from the mapping that is merged from a file and all files that it includes,
in their order. -/
theorem load_merges {files : Files} {base : Place} {path : String}
    (reads : readFields files base path = .ok main)
    (each : List.Forall₂ (fun name fields => readFields files base name = .ok fields)
      ((includes main).map (join (directory path))) overlays) :
    ∃ merged, Merged main overlays merged ∧
      load files base path = ((includes main).map (join (directory path)),
        match Config.options (.object merged) with
        | some options => .ok options
        | none => .error .options) := by
  obtain ⟨merged, merges, all⟩ := (merged_nil (ordered_of_readFields reads)).mergeIncludes each
  have loaded : loadFields files base path =
      ((includes main).map (join (directory path)), .ok merged) := by
    rw [loadFields, reads]
    exact merges
  refine ⟨merged, all, ?_⟩
  rw [load, loaded]
  rfl

/-- A file that includes two others; one of them includes the first file again. -/
def includingFiles : Files :=
  let file (tree : Files) (path text : String) := tree.place [] path text.toUTF8.toList
  file (file (file (Files.withDirectory []) "main.json"
    "\x7b\"alerts\": [1], \"include\": [\"a.json\", \"b.yml\"], \"prefix\": \"x\"\x7d")
    "a.json" "\x7b\"alerts\": null, \"include\": \"main.json\", \"prefix\": \"y\"\x7d")
    "b.yml" "alerts: [2]"

/-- The mapping of the first file. -/
def includingFields : Fields :=
  [("alerts", .list [.number (.integer 1)]), ("include", .list [.text "a.json", .text "b.yml"]),
    ("prefix", .text "x")]

/-- The mappings of the files that it includes. -/
def includedFields : List Fields :=
  [[("alerts", .null), ("include", .text "main.json"), ("prefix", .text "y")],
    [("alerts", .list [.number (.integer 2)])]]

/-- The files hold these mappings. -/
theorem readFields_includingFiles :
    readFields includingFiles [] "main.json" = .ok includingFields ∧
      List.Forall₂ (fun name fields => readFields includingFiles [] name = .ok fields)
        ["a.json", "b.yml"] includedFields := by
  have main : includingFiles.readText? [] "main.json" = some
      "\x7b\"alerts\": [1], \"include\": [\"a.json\", \"b.yml\"], \"prefix\": \"x\"\x7d" := by
    decide +kernel
  have first : includingFiles.readText? [] "a.json" = some
      "\x7b\"alerts\": null, \"include\": \"main.json\", \"prefix\": \"y\"\x7d" := by
    decide +kernel
  have second : includingFiles.readText? [] "b.yml" = some "alerts: [2]" := by decide +kernel
  refine ⟨?_, .cons ?_ (.cons ?_ .nil)⟩
  · rw [readFields, readValue, main]
    rfl
  · rw [readFields, readValue, first]
    rfl
  · rw [readFields, readValue, second]
    rfl

/-- The alerts of the second file are not a list and those of the third one are, and the prefix of
the second file counts. -/
theorem load_merges_three_files :
    ∃ merged : Fields,
      merged.get? "alerts" = some (.list [.number (.integer 1), .number (.integer 2)]) ∧
      merged.get? "prefix" = some (.text "y") ∧ merged.get? "include" = none ∧
      load includingFiles [] "main.json" = (["a.json", "b.yml"],
        match Config.options (.object merged) with
        | some options => .ok options
        | none => .error .options) := by
  obtain ⟨reads, each⟩ := readFields_includingFiles
  obtain ⟨merged, all, loads⟩ := load_merges reads each
  have listed : ∃ overlay ∈ includedFields, (alertList? overlay).isSome :=
    ⟨_, List.mem_cons_of_mem _ List.mem_cons_self, rfl⟩
  have last := all.others "prefix" (by decide) (by decide)
  exact ⟨merged, all.joined listed, last, all.includes, loads⟩

end Vigil.Config
