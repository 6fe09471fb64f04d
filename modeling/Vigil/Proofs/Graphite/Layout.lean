import Mathlib.Data.List.Forall2
import Vigil.Proofs.Graphite.Body
import Vigil.Proofs.Text.Pieces

/-!
# Blank lines and line ends

A body is decoded as a whole. Its records are those of the lines that are not blank, in their
order, or the first of these lines that is no record refuses it. So blank lines make no difference
to it, nor does the way in which lines end: only the text that a refusal quotes can differ. Each
record is one sample of its target, and the value of the sample is missing exactly when the record
has none.
-/

namespace Vigil

namespace Graphite

/-- The fault without the text that it quotes. -/
def RecordFault.unquoted : RecordFault → RecordFault
  | separatorMissing _ => .separatorMissing ""
  | metadata _ => .metadata ""

/-- Bodies that differ in their blank lines and in how their lines end. -/
inductive Relined : List Char → List Char → Prop where
  | refl (body : List Char) : Relined body body
  | symm {body other : List Char} (same : Relined body other) : Relined other body
  | trans {body middle other : List Char} (first : Relined body middle)
      (second : Relined middle other) : Relined body other
  | blankFirst (body : List Char) {blank : List Char} (gap : Text.IsGap blank) :
      Relined body (blank ++ '\n' :: body)
  | blankBetween (before after : List Char) {blank : List Char} (gap : Text.IsGap blank) :
      Relined (before ++ '\n' :: after) (before ++ '\n' :: (blank ++ '\n' :: after))
  | blankLast (body : List Char) {blank : List Char} (gap : Text.IsGap blank) :
      Relined body (body ++ '\n' :: blank)
  | lineEnd (before after : List Char) :
      Relined (before ++ '\n' :: after) (before ++ '\r' :: '\n' :: after)

/-- What a line is read as, apart from the text that a refusal quotes. -/
def Record.readUnquoted (policy : GapPolicy) (line : List Char) : Except RecordFault Record :=
  (Record.read policy line).mapError .unquoted

/-! ## Lines -/

/-- Blanks at the end of a line change nothing but what its refusal quotes. -/
theorem readUnquoted_append (policy : GapPolicy) (line : List Char) {gap : List Char}
    (blank : Text.IsGap gap) :
    Record.readUnquoted policy (line ++ gap) = Record.readUnquoted policy line := by
  have noBar : '|' ∉ gap := fun member => absurd (blank '|' member) (by decide)
  unfold Record.readUnquoted Record.read
  cases cut : Text.splitFirst '|' line with
  | none =>
    have absent : '|' ∉ line ++ gap := by
      rw [List.mem_append, not_or]
      exact ⟨Text.splitFirst_eq_none_iff.1 cut, noBar⟩
    rw [Text.splitFirst_eq_none_iff.2 absent]
    rfl
  | some parts =>
    obtain ⟨head, data⟩ := parts
    obtain ⟨rfl, absent⟩ := Text.splitFirst_eq_some_iff.1 cut
    have longer : Text.splitFirst '|' (head ++ '|' :: data ++ gap) = some (head, data ++ gap) :=
      Text.splitFirst_eq_some_iff.2 ⟨by simp, absent⟩
    have values : Record.ofParts? policy head (data ++ gap) =
        Record.ofParts? policy head data := by
      unfold Record.ofParts? Record.readValues
      rw [Text.trimEnd_append data blank]
    rw [longer]
    dsimp only
    rw [values]
    cases Record.ofParts? policy head data <;> rfl

/-- A carriage return is a blank. -/
theorem isGap_return : Text.IsGap ['\r'] := by
  intro c member
  rw [List.mem_singleton.1 member]
  decide

/-- The line that a piece makes is the piece but for blanks at its end. -/
theorem exists_dropReturn_append (piece : List Char) :
    ∃ gap, piece = Text.dropReturn piece ++ gap ∧ Text.IsGap gap := by
  unfold Text.dropReturn
  split
  · rename_i ends
    obtain ⟨line, rfl⟩ := List.getLast?_eq_some_iff.1 ends
    exact ⟨['\r'], by rw [List.dropLast_concat], isGap_return⟩
  · exact ⟨[], by simp, by simp [Text.IsGap]⟩

/-! ## Pieces between newlines -/

/-- What some pieces are read as that are not blank. -/
def outcomesOf (policy : GapPolicy) (pieces : List (List Char)) :
    List (Except RecordFault Record) :=
  (pieces.filter fun piece => !(Text.trim piece).isEmpty).map (Record.readUnquoted policy)

/-- Pieces in two parts are read in these parts. -/
theorem outcomesOf_append (policy : GapPolicy) (front back : List (List Char)) :
    outcomesOf policy (front ++ back) = outcomesOf policy front ++ outcomesOf policy back := by
  rw [outcomesOf, List.filter_append, List.map_append]
  rfl

/-- Pieces that are blank are not read. -/
theorem outcomesOf_of_blank (policy : GapPolicy) {pieces : List (List Char)}
    (blank : ∀ piece ∈ pieces, Text.IsGap piece) : outcomesOf policy pieces = [] := by
  rw [outcomesOf, List.map_eq_nil_iff, List.filter_eq_nil_iff]
  intro piece member
  rw [Text.isEmpty_trim_iff.2 (blank piece member)]
  decide

/-- It makes no difference whether pieces lose their carriage returns first. -/
theorem outcomesOf_dropReturn (policy : GapPolicy) (pieces : List (List Char)) :
    outcomesOf policy (pieces.map Text.dropReturn) = outcomesOf policy pieces := by
  have solid : ∀ piece, (Text.trim (Text.dropReturn piece)).isEmpty =
      (Text.trim piece).isEmpty := by
    intro piece
    obtain ⟨gap, whole, blank⟩ := exists_dropReturn_append piece
    have trimmed := Text.trim_append (Text.dropReturn piece) blank
    rw [← whole] at trimmed
    rw [trimmed]
  have read : ∀ piece, Record.readUnquoted policy (Text.dropReturn piece) =
      Record.readUnquoted policy piece := by
    intro piece
    obtain ⟨gap, whole, blank⟩ := exists_dropReturn_append piece
    have shortened := readUnquoted_append policy (Text.dropReturn piece) blank
    rw [← whole] at shortened
    exact shortened.symm
  simp only [outcomesOf, List.filter_map, List.map_map, Function.comp_def, solid, read]

/-- What the lines of a body are read as. -/
def outcomes (policy : GapPolicy) (body : List Char) : List (Except RecordFault Record) :=
  outcomesOf policy (Text.splitAt '\n' body)

/-- The lines of a body are read like its pieces between newlines. -/
theorem outcomesOf_lines (policy : GapPolicy) (body : List Char) :
    outcomesOf policy (Text.lines body) = outcomes policy body := by
  have filled : Text.splitAt '\n' body ≠ [] := by
    rw [Text.splitAt_eq_splitOn]
    exact List.splitOn_ne_nil '\n' body
  obtain ⟨front, last, pieces⟩ := (List.eq_nil_or_concat _).resolve_left filled
  rw [List.concat_eq_append] at pieces
  have ends : outcomesOf policy (if last.isEmpty then [] else [last]) =
      outcomesOf policy [last] := by
    split
    · rename_i empty
      have blank : ∀ piece ∈ [last], Text.IsGap piece := by
        simp [List.isEmpty_iff.1 empty, Text.IsGap]
      rw [outcomesOf_of_blank policy blank]
      rfl
    · rfl
  rw [Text.lines, outcomes, pieces, List.dropLast_concat, List.getLastD_concat,
    outcomesOf_append, outcomesOf_append, outcomesOf_dropReturn, ends]

/-- A body is read as its lines are, apart from the text that a refusal quotes. -/
theorem mapError_readAll (policy : GapPolicy) (body : List Char) :
    (Record.readAll policy body).mapError .unquoted = (outcomes policy body).mapM id := by
  rw [Record.readAll, mapError_mapM, ← outcomesOf_lines, outcomesOf, List.mapM_map]
  rfl

/-- A body is read in two parts that a newline separates. -/
theorem outcomes_append_cons (policy : GapPolicy) (before after : List Char) :
    outcomes policy (before ++ '\n' :: after) =
      outcomes policy before ++ outcomes policy after := by
  rw [outcomes, Text.splitAt_append_cons, outcomesOf_append]
  rfl

/-- A body of blanks has nothing that is read. -/
theorem outcomes_of_gap (policy : GapPolicy) {blank : List Char} (gap : Text.IsGap blank) :
    outcomes policy blank = [] := by
  refine outcomesOf_of_blank policy fun piece listed c member => ?_
  exact gap c (Text.mem_of_mem_splitAt listed c member)

/-- A carriage return at the end of a body changes nothing that is read. -/
theorem outcomes_append_return (policy : GapPolicy) (body : List Char) :
    outcomes policy (body ++ ['\r']) = outcomes policy body := by
  have unbroken : '\n' ∉ ['\r'] := by decide
  obtain ⟨pieces, last, cut, lengthened⟩ := Text.splitAt_append body unbroken
  have same : outcomesOf policy [last ++ ['\r']] = outcomesOf policy [last] := by
    simp only [outcomesOf, List.filter_cons, List.filter_nil, Text.trim_append last isGap_return]
    split
    · rw [List.map_singleton, List.map_singleton, readUnquoted_append policy last isGap_return]
    · rfl
  rw [outcomes, outcomes, cut, lengthened, outcomesOf_append, outcomesOf_append, same]

/-- Blank lines and line ends change nothing that is read. -/
theorem outcomes_of_relined (policy : GapPolicy) {body other : List Char}
    (same : Relined body other) : outcomes policy body = outcomes policy other := by
  induction same with
  | refl => rfl
  | symm _ ih => exact ih.symm
  | trans _ _ first second => exact first.trans second
  | blankFirst body gap =>
    rw [outcomes_append_cons, outcomes_of_gap policy gap, List.nil_append]
  | blankBetween before after gap =>
    rw [outcomes_append_cons, outcomes_append_cons, outcomes_append_cons,
      outcomes_of_gap policy gap, List.nil_append]
  | blankLast body gap =>
    rw [outcomes_append_cons, outcomes_of_gap policy gap, List.append_nil]
  | lineEnd before after =>
    have moved : before ++ '\r' :: '\n' :: after = (before ++ ['\r']) ++ '\n' :: after := by simp
    rw [moved, outcomes_append_cons, outcomes_append_cons, outcomes_append_return]

/-! ## Samples -/

/-- A reduction has no value exactly where there are no values. -/
theorem apply_eq_none_iff (reduction : Reduction) (values : List Double) :
    reduction.apply values = none ↔ values = [] := by
  have folded : ∀ (f : Double → Double → Double) (rest : List Double) (start : Double),
      rest.foldl (fun so_far x => so_far.map (f · x)) (some start) ≠ none := by
    intro f rest
    induction rest with
    | nil => exact fun start => Option.some_ne_none start
    | cons x rest ih => exact fun start => ih (f start x)
  cases values with
  | nil => simp [Reduction.apply_nil]
  | cons x rest =>
    cases reduction with
    | average => simp [Reduction.apply]
    | lastValue => simp [Reduction.apply]
    | sum => simp [Reduction.apply]
    | minimum => simpa [Reduction.apply] using folded Double.min rest x
    | maximum => simpa [Reduction.apply] using folded Double.max rest x

/-- What an answer of success brings is decided by its body alone. -/
theorem samples_of_success (request : FetchRequest) (reduction : Reduction) (policy : GapPolicy)
    {response : FetchResponse} (success : 200 ≤ response.status ∧ response.status < 300) :
    (Source.graphite request reduction policy).samples (.ok response) =
      ((Record.readAll policy response.body.toList).map (samplesOf reduction)).mapError .decode := by
  have accepted : response.isSuccess = true := (isSuccess_iff response).2 success
  simp only [Source.samples, accepted]
  cases Record.readAll policy response.body.toList <;> rfl

/-- A record is one sample of its target, without a value exactly when the record has none. -/
theorem forall₂_samplesOf (reduction : Reduction) (records : List Record) :
    List.Forall₂ (fun record sample => sample.target = record.target ∧
      sample.value = reduction.apply record.values ∧ (sample.value = none ↔ record.values = []))
      records (samplesOf reduction records) := by
  rw [samplesOf, List.forall₂_map_right_iff, List.forall₂_same]
  intro record _
  exact ⟨rfl, rfl, apply_eq_none_iff reduction record.values⟩

/-- A body is decoded as a whole: to the records of its lines that are not blank, in their order,
or to the refusal of the first of them that is no record. Blank lines and line ends change nothing
but what a refusal quotes. When the status is one of success, a source makes one sample of each
record, for its target, and the value is missing exactly when the record has none. -/
theorem readAll_of_lines (policy : GapPolicy) (body : String) :
    (∀ records, Record.readAll policy body.toList = .ok records ↔
        (bodyLines body).map (Record.read policy) = records.map .ok) ∧
      (∀ fault, Record.readAll policy body.toList = .error fault ↔
        ∃ before line after, bodyLines body = before ++ line :: after ∧
          (∀ earlier ∈ before, ∃ record, Record.read policy earlier = .ok record) ∧
          Record.read policy line = .error fault) ∧
      (∀ other, Relined body.toList other →
        (Record.readAll policy body.toList).mapError RecordFault.unquoted =
          (Record.readAll policy other).mapError RecordFault.unquoted) ∧
      ∀ request reduction status, 200 ≤ status ∧ status < 300 →
        let loaded := (Source.graphite request reduction policy).samples (.ok ⟨status, body⟩)
        (∀ fault, Record.readAll policy body.toList = .error fault →
          loaded = .error (.decode fault)) ∧
        ∀ records, Record.readAll policy body.toList = .ok records →
          ∃ samples, loaded = .ok samples ∧
            List.Forall₂ (fun record sample => sample.target = record.target ∧
              sample.value = reduction.apply record.values ∧
              (sample.value = none ↔ record.values = [])) records samples := by
  refine ⟨readAll_eq_ok_iff policy body, ?_, ?_, ?_⟩
  · exact mapM_eq_error_iff_first (Record.read policy) (bodyLines body)
  · intro other same
    rw [mapError_readAll, mapError_readAll, outcomes_of_relined policy same]
  · intro request reduction status success loaded
    have accepted : 200 ≤ (FetchResponse.mk status body).status ∧
        (FetchResponse.mk status body).status < 300 := success
    have brought : loaded = _ := samples_of_success request reduction policy accepted
    constructor
    · intro fault refused
      rw [brought, refused]
      rfl
    · intro records read
      refine ⟨samplesOf reduction records, ?_, forall₂_samplesOf reduction records⟩
      rw [brought, read]
      rfl

/-- A body with a blank line between two series, of which one has gaps alone, loses that line and
gets a carriage return at the end of a line. It has the same records, and they are two samples. -/
theorem readAll_of_relined_body :
    let body := "a,1,2,60|1,2\n \nb,1,2,60|None\n"
    let other := "a,1,2,60|1,2\r\nb,1,2,60|None\n"
    let records : List Record := [⟨"a", 1, 2, 60, [1, 2]⟩, ⟨"b", 1, 2, 60, []⟩]
    let timeouts : Timeouts := ⟨.ofWholeSeconds 20, .ofWholeSeconds 20⟩
    let source := Source.graphite ⟨"http://localhost/render/", Method.get, timeouts, none⟩ .sum
      ⟨0, false⟩
    Relined body.toList other.toList ∧ Record.readAll ⟨0, false⟩ body.toList = .ok records ∧
      Record.readAll ⟨0, false⟩ other.toList = .ok records ∧
      ∃ samples, source.samples (.ok ⟨200, body⟩) = .ok samples ∧
        samples.map (·.target) = ["a", "b"] ∧ samples.map (·.value.isNone) = [false, true] := by
  intro body other records timeouts source
  have same : Relined body.toList other.toList := by
    have gap : Text.IsGap [' '] := by
      intro c member
      rw [List.mem_singleton.1 member]
      decide
    have removed := Relined.blankBetween "a,1,2,60|1,2".toList "b,1,2,60|None\n".toList gap
    have ended := Relined.lineEnd "a,1,2,60|1,2".toList "b,1,2,60|None\n".toList
    have before : body.toList =
        "a,1,2,60|1,2".toList ++ '\n' :: ([' '] ++ '\n' :: "b,1,2,60|None\n".toList) := by decide
    have after : other.toList =
        "a,1,2,60|1,2".toList ++ '\r' :: '\n' :: "b,1,2,60|None\n".toList := by decide
    rw [before, after]
    exact removed.symm.trans ended
  have read : Record.readAll ⟨0, false⟩ body.toList = .ok records := by decide +kernel
  obtain ⟨-, -, relined, loads⟩ := readAll_of_lines ⟨0, false⟩ body
  have reread : Record.readAll ⟨0, false⟩ other.toList = .ok records := by
    have kept := relined other.toList same
    rw [read] at kept
    cases again : Record.readAll ⟨0, false⟩ other.toList with
    | error fault =>
      rw [again] at kept
      cases kept
    | ok found =>
      rw [again] at kept
      cases kept
      rfl
  obtain ⟨samples, loaded, each⟩ :=
    (loads source.request .sum 200 (by decide)).2 records read
  refine ⟨same, read, reread, samples, loaded, ?_⟩
  change List.Forall₂ _ [_, _] samples at each
  cases each with
  | cons first rest =>
    cases rest with
    | cons second rest =>
      cases rest
      obtain ⟨first, -, kept⟩ := first
      obtain ⟨second, -, missing⟩ := second
      have given := Option.isSome_iff_ne_none.2 fun none => by cases kept.1 none
      have absent := missing.2 rfl
      simp [first, second, given, absent]

end Graphite

end Vigil
