import Vigil.Alert.Monitor
import Vigil.Proofs.Alert.Run
import Vigil.Proofs.Graphite.Body

/-!
# What a load does to the state

A load of a graphite source ends in one of two ways. If its result is unusable, for
whichever of the four causes, the state keeps every history and every level, and only the
level of the loads becomes that of a failure. Otherwise all samples of the body are taken
in the order of its lines, and the level of the loads becomes normal. In both cases the
load is no longer under way.
-/

namespace Vigil

namespace Monitor

open Graphite

variable {m : Monitor} {request : FetchRequest} {reduction : Reduction} {policy : GapPolicy}

/-- An answer fails by its status, by its body or by being empty, and otherwise it brings the
samples of its records. -/
theorem outcome_of_response (polls : m.source = .graphite request reduction policy)
    (response : FetchResponse) :
    m.outcome (.ok response) =
      if response.isSuccess then
        match Record.readAll policy response.body.toList with
        | .error fault => .error (.source (.decode fault))
        | .ok [] => .error .empty
        | .ok records => .ok (samplesOf reduction records)
      else .error (.source (.transport (.status response.status request.url))) := by
  unfold outcome
  rw [polls]
  cases success : response.isSuccess with
  | false => simp [Source.samples, success]
  | true =>
    cases body : Record.readAll policy response.body.toList with
    | error fault => simp [Source.samples, success, body]
    | ok records => cases records <;> simp [Source.samples, success, body, samplesOf]

/-- An unusable result is a failed load, whatever its cause. -/
theorem outcome_of_unusable (polls : m.source = .graphite request reduction policy)
    {result : FetchResult} (unusable : Unusable policy result) :
    ∃ fault, m.outcome result = .error fault := by
  cases result with
  | error fault => exact ⟨.source (.transport fault), rfl⟩
  | ok response =>
    rw [outcome_of_response polls]
    cases success : response.isSuccess with
    | false => exact ⟨_, rfl⟩
    | true =>
      cases unusable with
      | refused status => exact absurd ((isSuccess_iff response).1 success) status
      | malformed listed wrong =>
        obtain ⟨first, refused⟩ :=
          (readAll_eq_error_iff policy response.body).2 ⟨_, listed, _, wrong⟩
        rw [refused]
        exact ⟨_, rfl⟩
      | empty nothing =>
        have read : Record.readAll policy response.body.toList = .ok [] := by
          rw [readAll_eq_ok_iff, nothing]
          rfl
        rw [read]
        exact ⟨_, rfl⟩

/-- A usable result is an answer of which every line that is not blank is a record, and its outcome
are the samples of these records. -/
theorem outcome_of_usable (polls : m.source = .graphite request reduction policy)
    {result : FetchResult} (usable : ¬Unusable policy result) :
    ∃ response records, result = .ok response ∧
      (bodyLines response.body).map (Record.read policy) = records.map .ok ∧
      m.outcome result = .ok (samplesOf reduction records) := by
  cases result with
  | error fault => exact absurd (.failed fault) usable
  | ok response =>
    have success : response.isSuccess = true := by
      rw [isSuccess_iff]
      exact Classical.byContradiction fun status => usable (.refused status)
    cases body : Record.readAll policy response.body.toList with
    | error fault =>
      obtain ⟨line, listed, wrong, refused⟩ :=
        (readAll_eq_error_iff policy response.body).1 ⟨fault, body⟩
      exact absurd (.malformed listed refused) usable
    | ok records =>
      have lines := (readAll_eq_ok_iff policy response.body records).1 body
      refine ⟨response, records, rfl, lines, ?_⟩
      rw [outcome_of_response polls, body]
      cases records with
      | nil => exact absurd (.empty (List.map_eq_nil_iff.1 lines)) usable
      | cons record rest => simp [success]

/-- A failed load leaves every history and every level alone except that of the loads, and is
notified at most once. -/
theorem finishLoad_of_error {result : FetchResult} {fault : LoadFault}
    (active : m.retired = false) (known : (m.state.level? loadingTarget).isSome)
    (failed : m.outcome result = .error fault) :
    (∀ target, (m.finishLoad result).1.state.history? target = m.state.history? target) ∧
      (∀ target, (m.finishLoad result).1.state.level? target =
        if target = loadingTarget then some m.alert.loadingError else m.state.level? target) ∧
      (m.finishLoad result).2.events =
        if m.state.level? loadingTarget = some m.alert.loadingError then []
        else [(failedReport m.alert fault).event m.alert] := by
  have tracked : (m.state.level? (failedReport m.alert fault).target).isSome := known
  obtain ⟨levels, sent⟩ := AlertState.transition_of_known m.alert tracked
  have ends : m.finishLoad result =
      ({ m with loading := false }.judge (.error fault)) := by
    simp [finishLoad, active, failed]
  rw [ends]
  exact ⟨AlertState.history?_transition _ _ _, levels, sent⟩

/-- A load with samples takes them all and then reports that they came. -/
theorem finishLoad_of_ok {result : FetchResult} {samples : List Sample}
    (active : m.retired = false) (known : (m.state.level? loadingTarget).isSome)
    (loaded : m.outcome result = .ok samples) :
    let checked := m.state.check m.alert samples
    (∀ target, (m.finishLoad result).1.state.history? target = checked.1.history? target) ∧
      (∀ target, (m.finishLoad result).1.state.level? target =
        if target = loadingTarget then some .normal else checked.1.level? target) ∧
      (m.finishLoad result).2.events = checked.2 ++
        if checked.1.level? loadingTarget = some .normal then []
        else [loadedReport.event m.alert] := by
  intro checked
  have stays : (checked.1.level? loadedReport.target).isSome :=
    AlertState.isSome_level?_check m.alert samples known
  obtain ⟨levels, sent⟩ := AlertState.transition_of_known m.alert stays
  have ends : m.finishLoad result = ({ m with loading := false }.judge (.ok samples)) := by
    simp [finishLoad, active, loaded]
  rw [ends]
  exact ⟨AlertState.history?_transition _ _ _, levels, congrArg (checked.2 ++ ·) sent⟩

/-- Whatever the state of a monitor that is not stopped and whatever the result of the load under
way: an unusable result changes the level of the loads alone and is notified at most once, and any
other result is taken as a whole, line by line, before the loads are reported as normal. The load
has ended in both cases. -/
theorem finishLoad_of_graphite (alert : Alert) (request : FetchRequest) (reduction : Reduction)
    (policy : GapPolicy) (debug : Bool) (timer : Option Timer) (historySize : Nat)
    (calls : List (Alert × AlertState.Operation)) (result : FetchResult) :
    let state := ((AlertState.initial historySize).run calls).1
    let m : Monitor :=
      ⟨alert, .graphite request reduction policy, state, true, false, debug, timer⟩
    let ended := (m.finishLoad result).1
    let events := (m.finishLoad result).2.events
    ended.loading = false ∧
      (Unusable policy result ∧
          (∀ target, ended.state.history? target = state.history? target) ∧
          (∀ target, ended.state.level? target =
            if target = loadingTarget then some alert.loadingError else state.level? target) ∧
          (∃ fault, m.outcome result = .error fault ∧ events =
            if state.level? loadingTarget = some alert.loadingError then []
            else [(failedReport alert fault).event alert]) ∨
        ¬Unusable policy result ∧ ∃ response records, result = .ok response ∧
          (bodyLines response.body).map (Record.read policy) = records.map .ok ∧
          let checked := state.check alert (samplesOf reduction records)
          (∀ target, ended.state.history? target = checked.1.history? target) ∧
          (∀ target, ended.state.level? target =
            if target = loadingTarget then some .normal else checked.1.level? target) ∧
          events = checked.2 ++
            if checked.1.level? loadingTarget = some .normal then []
            else [loadedReport.event alert]) := by
  intro state m ended events
  have known : (m.state.level? loadingTarget).isSome :=
    AlertState.isSome_level?_run historySize calls
  refine ⟨loading_finishLoad m result, ?_⟩
  by_cases unusable : Unusable policy result
  · left
    obtain ⟨fault, failed⟩ := outcome_of_unusable (m := m) rfl unusable
    obtain ⟨histories, levels, sent⟩ := finishLoad_of_error (m := m) rfl known failed
    exact ⟨unusable, histories, levels, fault, failed, sent⟩
  · right
    obtain ⟨response, records, answered, lines, loaded⟩ :=
      outcome_of_usable (m := m) rfl unusable
    obtain ⟨histories, levels, sent⟩ := finishLoad_of_ok (m := m) rfl known loaded
    exact ⟨unusable, response, records, answered, lines, histories, levels, sent⟩

end Monitor

end Vigil
