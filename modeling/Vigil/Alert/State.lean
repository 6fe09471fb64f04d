import Vigil.Notification
import Vigil.Rule.Evaluation
import Vigil.Source.Sample
import Vigil.Table

/-!
# The state of an alert

For each target the state keeps the level that was last recorded and the history
of its values. A notification arises only where the level of a target changes.
Two targets stand for the watch itself: one for its schedule, one for its loads.
-/

namespace Vigil

/-- The target for a load that is still running when the next one is due. -/
def waitingTarget : String := "waiting"

/-- The target for loads that fail or bring nothing. -/
def loadingTarget : String := "loading"

/-- A level that is reported for a target, with what a notification of it would say. -/
structure Report where
  target : String
  level : Level
  value : EventValue
  kind : EventKind
  rule : Option Rule
deriving DecidableEq

/-- The notification of a report. -/
def Report.event (report : Report) (alert : Alert) : Event :=
  ⟨report.level, alert, report.value, report.target, report.kind, report.rule⟩

/-- The levels and the histories of the targets of an alert. -/
structure AlertState where
  levels : Table String Level
  histories : Table String History
  historySize : Nat

namespace AlertState

/-- The state before anything was loaded: the watch itself is in order. -/
def initial (historySize : Nat) : AlertState where
  levels := (Table.empty.set waitingTarget .normal).set loadingTarget .normal
  histories := Table.empty
  historySize := historySize

/-- The recorded level of a target. -/
def level? (state : AlertState) (target : String) : Option Level := state.levels.get? target

/-- The history of a target. -/
def history? (state : AlertState) (target : String) : Option History := state.histories.get? target

/-- Whether a report changes nothing: the level is the recorded one, or it is the first one of its
target, normal, and first ones are not sent. -/
def isSilent (state : AlertState) (alert : Alert) (report : Report) : Bool :=
  match state.level? report.target with
  | some level => level = report.level
  | none => report.level = .normal && !alert.sendInitial

/-- Records a report, with its notification unless it is silent. -/
def transition (state : AlertState) (alert : Alert) (report : Report) :
    AlertState × Option Event :=
  if state.isSilent alert report then (state, none)
  else
    ({ state with levels := state.levels.set report.target report.level }, some (report.event alert))

/-- The report of a sample: of its rule if it has a value, and of missing data otherwise. -/
def reportOf (state : AlertState) (alert : Alert) (sample : Sample) : Report :=
  match sample.value with
  | none => ⟨sample.target, alert.noData, .noData, .source, none⟩
  | some x =>
      let rule := Rule.firstMatch alert.rules x (state.history? sample.target)
      ⟨sample.target, Rule.levelOf rule, .number x, .source, rule⟩

/-- Appends a value to the history of a target, which begins with the first one. -/
def record (state : AlertState) (target : String) (x : Double) : AlertState :=
  let history := (state.history? target).getD (History.empty state.historySize)
  { state with histories := state.histories.set target (history.push x) }

/-- Appends the value of a sample, if it has one. -/
def recordSample (state : AlertState) (sample : Sample) : AlertState :=
  match sample.value with
  | none => state
  | some x => state.record sample.target x

/-- Takes one sample: it is judged by the history before it and joins the history afterwards. -/
def observe (state : AlertState) (alert : Alert) (sample : Sample) : AlertState × Option Event :=
  let (state, event) := state.transition alert (state.reportOf alert sample)
  (state.recordSample sample, event)

/-- Takes samples in their order. -/
def check (state : AlertState) (alert : Alert) : List Sample → AlertState × List Event
  | [] => (state, [])
  | sample :: rest =>
      let (next, event) := state.observe alert sample
      let (last, events) := next.check alert rest
      (last, event.toList ++ events)

/-- Brings every recorded level back to normal, so that faults that last are notified again. -/
def reset (state : AlertState) : AlertState :=
  { state with levels := state.levels.map fun _ => .normal }

/-- The watch itself is in order at first, and nothing else is known. -/
theorem level?_initial (historySize : Nat) (target : String) :
    (initial historySize).level? target =
      if target = loadingTarget ∨ target = waitingTarget then some .normal else none := by
  simp only [level?, initial, Table.get?_set, Table.get?_empty]
  by_cases loads : target = loadingTarget <;> by_cases waits : target = waitingTarget <;>
    simp [loads, waits]

/-- A report makes a notification exactly when it is not silent. -/
theorem event_transition (state : AlertState) (alert : Alert) (report : Report) :
    (state.transition alert report).2 =
      if state.isSilent alert report then none else some (report.event alert) := by
  unfold transition
  split <;> rfl

/-- A report that is not silent sets the level of its target, and no other level is touched. -/
theorem level?_transition (state : AlertState) (alert : Alert) (report : Report)
    (target : String) :
    (state.transition alert report).1.level? target =
      if target = report.target ∧ state.isSilent alert report = false then some report.level
      else state.level? target := by
  unfold transition
  by_cases silent : state.isSilent alert report = true
  · simp [silent]
  · simp [silent, level?, Table.get?_set]

/-- A report touches no history. -/
@[simp] theorem history?_transition (state : AlertState) (alert : Alert) (report : Report)
    (target : String) :
    (state.transition alert report).1.history? target = state.history? target := by
  unfold transition
  split <;> rfl

/-- A recorded value is pushed to the history of its target alone. -/
theorem history?_record (state : AlertState) (target other : String) (x : Double) :
    (state.record target x).history? other =
      if other = target then
        some (((state.history? target).getD (History.empty state.historySize)).push x)
      else state.history? other := by
  simp only [history?, record, Table.get?_set]

/-- A reset brings every level that is known back to normal and makes no other one known. -/
theorem level?_reset (state : AlertState) (target : String) :
    state.reset.level? target = (state.level? target).map fun _ => .normal := by
  simp only [level?, reset, Table.get?_map]

/-- A reset touches no history. -/
@[simp] theorem history?_reset (state : AlertState) (target : String) :
    state.reset.history? target = state.history? target := rfl

/-- Samples may be taken in batches. -/
theorem check_append (state : AlertState) (alert : Alert) (first second : List Sample) :
    state.check alert (first ++ second) =
      (((state.check alert first).1.check alert second).1,
        (state.check alert first).2 ++ ((state.check alert first).1.check alert second).2) := by
  induction first generalizing state with
  | nil => rfl
  | cons sample rest ih => simp only [List.cons_append, check, ih, List.append_assoc]

end AlertState

end Vigil
