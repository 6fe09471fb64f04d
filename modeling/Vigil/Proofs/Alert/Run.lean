import Vigil.Alert.State

/-!
# Runs of the state of an alert

The state of an alert changes by three kinds of calls: checks of batches of samples,
reports of a level, and resets. A check takes its samples one after another, so a run of
calls is a run of smaller steps, of which each makes one report at most and appends one
value at most. What holds of every step is proved here once; the laws of whole runs are
inductions over their steps.
-/

namespace Vigil

namespace AlertState

/-- One call on the state of an alert. -/
inductive Operation where
  | check (samples : List Sample)
  | transition (report : Report)
  | reset
deriving DecidableEq

/-- The smallest change of the state of an alert. -/
inductive Step where
  | sample (sample : Sample)
  | report (report : Report)
  | reset

/-- The steps of a call: a check takes one for each of its samples. -/
def Operation.steps : Operation → List Step
  | .check samples => samples.map .sample
  | .transition report => [.report report]
  | .reset => [.reset]

/-- Whether a step is a reset. -/
def Step.isReset : Step → Bool
  | .reset => true
  | _ => false

/-- The value that a step brings for a target. -/
def Step.value? (target : String) : Step → Option Double
  | .sample taken => if taken.target = target then taken.value else none
  | _ => none

/-- The steps of calls, each with the alert for which its call is made. -/
def stepsOf (calls : List (Alert × Operation)) : List (Alert × Step) :=
  calls.flatMap fun call => call.2.steps.map fun step => (call.1, step)

/-- The values that steps bring for a target, in their order. -/
def valuesOf (target : String) (steps : List (Alert × Step)) : List Double :=
  steps.filterMap fun step => step.2.value? target

/-- Makes one call for an alert. -/
def perform (state : AlertState) (alert : Alert) : Operation → AlertState × List Event
  | .check samples => state.check alert samples
  | .transition report =>
      let (next, event) := state.transition alert report
      (next, event.toList)
  | .reset => (state.reset, [])

/-- Makes calls in their order, each for the alert beside it. -/
def run (state : AlertState) : List (Alert × Operation) → AlertState × List Event
  | [] => (state, [])
  | (alert, operation) :: rest =>
      let (next, events) := state.perform alert operation
      let (last, more) := next.run rest
      (last, events ++ more)

/-- Takes one step for an alert. -/
def advance (state : AlertState) (alert : Alert) : Step → AlertState × Option Event
  | .sample sample => state.observe alert sample
  | .report report => state.transition alert report
  | .reset => (state.reset, none)

/-- Takes steps in their order, each for the alert beside it. -/
def follow (state : AlertState) : List (Alert × Step) → AlertState × List Event
  | [] => (state, [])
  | (alert, step) :: rest =>
      let (next, event) := state.advance alert step
      let (last, events) := next.follow rest
      (last, event.toList ++ events)

/-- The report that a step makes: of a sample by the history before it, and of a reset none. -/
def reportAt (state : AlertState) (alert : Alert) : Step → Option Report
  | .sample sample => some (state.reportOf alert sample)
  | .report report => some report
  | .reset => none

variable {state : AlertState} {alert : Alert} {target : String}

/-- Steps may be taken in parts. -/
theorem follow_append (state : AlertState) (first second : List (Alert × Step)) :
    state.follow (first ++ second) =
      (((state.follow first).1.follow second).1,
        (state.follow first).2 ++ ((state.follow first).1.follow second).2) := by
  induction first generalizing state with
  | nil => rfl
  | cons step rest ih => simp only [List.cons_append, follow, ih, List.append_assoc]

/-- A check takes the steps of its samples. -/
theorem follow_samples (state : AlertState) (alert : Alert) (samples : List Sample) :
    state.follow (samples.map fun sample => (alert, Step.sample sample)) =
      state.check alert samples := by
  induction samples generalizing state with
  | nil => rfl
  | cons sample rest ih => simp only [List.map_cons, follow, advance, check, ih]

/-- A call takes its steps. -/
theorem perform_eq_follow (state : AlertState) (alert : Alert) (operation : Operation) :
    state.perform alert operation =
      state.follow (operation.steps.map fun step => (alert, step)) := by
  cases operation with
  | check samples =>
    rw [Operation.steps, List.map_map]
    exact (follow_samples state alert samples).symm
  | transition report => simp [perform, Operation.steps, follow, advance]
  | reset => rfl

/-- Calls take the steps of each of them in turn. -/
theorem run_eq_follow (state : AlertState) (calls : List (Alert × Operation)) :
    state.run calls = state.follow (stepsOf calls) := by
  induction calls generalizing state with
  | nil => rfl
  | cons call rest ih =>
    have parts : stepsOf (call :: rest) =
        (call.2.steps.map fun step => (call.1, step)) ++ stepsOf rest := by
      simp only [stepsOf, List.flatMap_cons]
    rw [parts, follow_append, ← perform_eq_follow]
    simp only [run, ih]

/-- Calls may be made in parts. -/
theorem run_append (state : AlertState) (first second : List (Alert × Operation)) :
    state.run (first ++ second) =
      (((state.run first).1.run second).1,
        (state.run first).2 ++ ((state.run first).1.run second).2) := by
  simp only [run_eq_follow, stepsOf, List.flatMap_append, follow_append]

/-- What every step keeps is kept by every sequence of steps. -/
theorem follow_invariant (kept : AlertState → Prop)
    (step : ∀ state alert step, kept state → kept (state.advance alert step).1)
    (steps : List (Alert × Step)) (start : kept state) : kept (state.follow steps).1 := by
  induction steps generalizing state with
  | nil => exact start
  | cons next rest ih => exact ih (step state next.1 next.2 start)

/-- A missing value is not appended, and a value is appended to the history of its target. -/
theorem history?_recordSample (state : AlertState) (sample : Sample) (target : String) :
    (state.recordSample sample).history? target =
      match (Step.sample sample).value? target with
      | none => state.history? target
      | some x =>
          some (((state.history? target).getD (History.empty state.historySize)).push x) := by
  cases given : sample.value with
  | none => simp [recordSample, Step.value?, given]
  | some x =>
    by_cases own : sample.target = target
    · simp [recordSample, Step.value?, given, history?_record, own]
    · simp [recordSample, Step.value?, given, history?_record, own, Ne.symm own]

/-- A sample touches no level except through its report. -/
@[simp] theorem level?_recordSample (state : AlertState) (sample : Sample) (target : String) :
    (state.recordSample sample).level? target = state.level? target := by
  unfold recordSample
  split <;> rfl

/-- The report of a sample is of its target. -/
@[simp] theorem target_reportOf (state : AlertState) (alert : Alert) (sample : Sample) :
    (state.reportOf alert sample).target = sample.target := by
  unfold reportOf
  split <;> rfl

/-- Reports are silent by the level of their target alone. -/
theorem isSilent_congr {a b : AlertState} (alert : Alert) {report : Report}
    (same : a.level? report.target = b.level? report.target) :
    a.isSilent alert report = b.isSilent alert report := by
  simp [isSilent, same]

/-- A report leaves the room of new histories alone. -/
@[simp] theorem historySize_transition (state : AlertState) (alert : Alert) (report : Report) :
    (state.transition alert report).1.historySize = state.historySize := by
  unfold transition
  split <;> rfl

/-- No step changes the room of new histories. -/
@[simp] theorem historySize_advance (state : AlertState) (alert : Alert) (step : Step) :
    (state.advance alert step).1.historySize = state.historySize := by
  cases step with
  | sample sample =>
    have recorded : ∀ state : AlertState,
        (state.recordSample sample).historySize = state.historySize := by
      intro state
      unfold recordSample
      split <;> rfl
    simp only [advance, observe, recorded, historySize_transition]
  | report report => exact historySize_transition state alert report
  | reset => rfl

/-- A reset leaves the room of new histories alone. -/
@[simp] theorem historySize_reset (state : AlertState) :
    state.reset.historySize = state.historySize := rfl

/-- No sequence of steps changes the room of new histories. -/
@[simp] theorem historySize_follow (state : AlertState) (steps : List (Alert × Step)) :
    (state.follow steps).1.historySize = state.historySize :=
  follow_invariant (fun next => next.historySize = state.historySize)
    (fun next alert step same => (historySize_advance next alert step).trans same) steps rfl

/-- A step pushes the value that it brings for a target to the history of that target, and a step
that brings none leaves the history alone. -/
theorem history?_advance (state : AlertState) (alert : Alert) (step : Step) (target : String) :
    (state.advance alert step).1.history? target =
      match step.value? target with
      | none => state.history? target
      | some x =>
          some (((state.history? target).getD (History.empty state.historySize)).push x) := by
  cases step with
  | sample sample =>
    simp only [advance, observe, history?_recordSample, history?_transition,
      historySize_transition]
  | report report => simp [advance, Step.value?]
  | reset => simp [advance, Step.value?]

/-- A step that makes a report returns its notification, and one that makes none returns none. -/
theorem event_advance (state : AlertState) (alert : Alert) (step : Step) :
    (state.advance alert step).2 =
      (state.reportAt alert step).bind fun report => (state.transition alert report).2 := by
  cases step <;> rfl

/-- A step that makes a report sets levels as the report does. -/
theorem level?_advance_of_report {step : Step} {report : Report}
    (made : state.reportAt alert step = some report) (target : String) :
    (state.advance alert step).1.level? target =
      (state.transition alert report).1.level? target := by
  cases step with
  | sample sample =>
    obtain rfl := Option.some.inj made
    simp only [advance, observe, level?_recordSample]
  | report own =>
    obtain rfl := Option.some.inj made
    rfl
  | reset => exact absurd made (by simp [reportAt])

/-- A step never makes a known level unknown. -/
theorem isSome_level?_advance (alert : Alert) (step : Step)
    (known : (state.level? target).isSome) :
    ((state.advance alert step).1.level? target).isSome := by
  cases made : state.reportAt alert step with
  | none =>
    cases step with
    | reset => simpa only [advance, level?_reset, Option.isSome_map] using known
    | _ => exact absurd made (by simp [reportAt])
  | some report =>
    rw [level?_advance_of_report made, level?_transition]
    split
    · rfl
    · exact known

/-- A report of a target whose level is known sets that level and no other, and it is sent exactly
when it brings another level. -/
theorem transition_of_known (alert : Alert) {report : Report}
    (known : (state.level? report.target).isSome) :
    (∀ target, (state.transition alert report).1.level? target =
        if target = report.target then some report.level else state.level? target) ∧
      (state.transition alert report).2.toList =
        if state.level? report.target = some report.level then [] else [report.event alert] := by
  obtain ⟨level, found⟩ := Option.isSome_iff_exists.1 known
  constructor
  · intro target
    rw [level?_transition]
    by_cases own : target = report.target
    · by_cases same : level = report.level <;> simp [isSilent, own, found, same]
    · simp [own]
  · rw [event_transition]
    by_cases same : level = report.level <;> simp [isSilent, found, same]

/-- A level that is known stays known. -/
theorem isSome_level?_follow (steps : List (Alert × Step))
    (known : (state.level? target).isSome) : ((state.follow steps).1.level? target).isSome :=
  follow_invariant (fun state => (state.level? target).isSome)
    (fun _ alert step => isSome_level?_advance alert step) steps known

/-- A run keeps known levels known. -/
theorem isSome_level?_calls (calls : List (Alert × Operation))
    (known : (state.level? target).isSome) : ((state.run calls).1.level? target).isSome := by
  rw [run_eq_follow]
  exact isSome_level?_follow _ known

/-- A run always knows the level of the loads. -/
theorem isSome_level?_run (historySize : Nat) (calls : List (Alert × Operation)) :
    (((initial historySize).run calls).1.level? loadingTarget).isSome :=
  isSome_level?_calls calls (by simp [level?_initial])

/-- A check keeps known levels known. -/
theorem isSome_level?_check (alert : Alert) (samples : List Sample)
    (known : (state.level? target).isSome) :
    ((state.check alert samples).1.level? target).isSome := by
  rw [← follow_samples]
  exact isSome_level?_follow _ known

end AlertState

end Vigil
