import Vigil.Alert.State
import Vigil.Alert.Timer
import Vigil.LogEntry
import Vigil.Source.Basic

/-!
# Monitors

A monitor drives one alert. A load has two parts, the request and its result, and
anything may happen between them. One load is under way at most: another one that
begins meanwhile makes no request and is only reported. The result of a load that
ends while the monitor is stopped is thrown away.
-/

namespace Vigil

/-- What a step of a monitor makes known: notifications and log entries, in order. -/
structure Effects where
  events : List Event
  log : List LogEntry

/-- Nothing is made known. -/
def Effects.none : Effects := ⟨[], []⟩

/-- Why a load is reported as failed. -/
inductive LoadFault where
  | empty
  | source (fault : SourceFault)
deriving DecidableEq

/-- The message of a failed load. -/
def LoadFault.message : LoadFault → String
  | empty => "No data"
  | source fault => fault.message

/-- A running alert: its source, its state and its timer. -/
structure Monitor where
  alert : Alert
  source : Source
  state : AlertState
  /-- A load is under way. -/
  loading : Bool
  /-- The monitor was stopped and not started again. -/
  retired : Bool
  /-- The alert is polled by the debug schedule instead of its own. -/
  debug : Bool
  timer : Option Timer

namespace Monitor

/-- A monitor that has not been started. -/
def make (alert : Alert) (source : Source) (debug : Bool) : Monitor where
  alert := alert
  source := source
  state := AlertState.initial alert.historySize
  loading := false
  retired := false
  debug := debug
  timer := none

/-- Whether the timer is active. -/
def isRunning (m : Monitor) : Bool := m.timer.isSome

/-- The schedule by which the alert is polled. -/
def schedule (m : Monitor) : Schedule := if m.debug then .debug else m.alert.schedule

/-- Starts the timer anew; it is due at once. -/
def start (m : Monitor) (now : Moment) : Monitor :=
  { m with retired := false, timer := some (.start m.schedule now) }

/-- Stops the timer. -/
def stop (m : Monitor) : Monitor := { m with retired := true, timer := none }

/-- The timer goes on to its next due time. -/
def advanceTimer (m : Monitor) : Monitor := { m with timer := m.timer.map Timer.advance }

/-- The part of the program that reports on loads. -/
def place : String := "alerts::scheduler"

/-- A report about the watch itself. -/
def commonReport (target : String) (level : Level) (text : String) : Report :=
  ⟨target, level, .message text, .common, none⟩

/-- The report of a load that begins while another one is under way. -/
def overlapReport : Report := commonReport waitingTarget .warning "Process takes too much time"

/-- The report of a load that brought samples. -/
def loadedReport : Report := commonReport loadingTarget .normal "Metrics are loaded"

/-- The report of a load that failed. -/
def failedReport (alert : Alert) (fault : LoadFault) : Report :=
  commonReport loadingTarget alert.loadingError ("Loading error: " ++ fault.message)

/-- The log entry of a load that begins while another one is under way. -/
def overlapEntry (m : Monitor) : LogEntry :=
  ⟨.warning, place, "Previous load is still running", [("alert", m.alert.text)]⟩

/-- The log entry of a failed load. -/
def failedEntry (m : Monitor) (fault : LoadFault) : LogEntry :=
  ⟨.error, place, "Loading error", [("alert", m.alert.text), ("error", fault.message)]⟩

/-- Records a report. -/
def report (m : Monitor) (report : Report) : Monitor × List Event :=
  let (state, event) := m.state.transition m.alert report
  ({ m with state := state }, event.toList)

/-- Begins a load: its request, unless another load is under way. -/
def beginLoad (m : Monitor) : Monitor × Effects × Option FetchRequest :=
  if m.loading then
    let (m, events) := m.report overlapReport
    (m, ⟨events, [m.overlapEntry]⟩, none)
  else ({ m with loading := true }, Effects.none, some m.source.request)

/-- The samples of a result; a load without samples has failed. -/
def outcome (m : Monitor) (result : FetchResult) : Except LoadFault (List Sample) :=
  match m.source.samples result with
  | .error fault => .error (.source fault)
  | .ok [] => .error .empty
  | .ok samples => .ok samples

/-- Takes samples. -/
def check (m : Monitor) (samples : List Sample) : Monitor × List Event :=
  let (state, events) := m.state.check m.alert samples
  ({ m with state := state }, events)

/-- Takes the samples of a load, or reports its failure. -/
def judge (m : Monitor) : Except LoadFault (List Sample) → Monitor × Effects
  | .ok samples =>
      let (m, events) := m.check samples
      let (m, loaded) := m.report loadedReport
      (m, ⟨events ++ loaded, []⟩)
  | .error fault =>
      let entry := m.failedEntry fault
      let (m, events) := m.report (failedReport m.alert fault)
      (m, ⟨events, [entry]⟩)

/-- Ends the load under way with the result of its request. -/
def finishLoad (m : Monitor) (result : FetchResult) : Monitor × Effects :=
  let ended := { m with loading := false }
  if m.retired then (ended, Effects.none) else ended.judge (m.outcome result)

/-- Brings every recorded level back to normal. -/
def reset (m : Monitor) : Monitor := { m with state := m.state.reset }

/-- After a load has ended, none is under way. -/
@[simp] theorem loading_finishLoad (m : Monitor) (result : FetchResult) :
    (m.finishLoad result).1.loading = false := by
  unfold finishLoad
  dsimp only
  split
  · rfl
  · unfold judge
    split <;> rfl

/-- A monitor that was started has a timer. -/
@[simp] theorem isRunning_start (m : Monitor) (now : Moment) : (m.start now).isRunning = true := rfl

/-- A monitor that was stopped has none. -/
@[simp] theorem isRunning_stop (m : Monitor) : m.stop.isRunning = false := rfl

end Monitor

end Vigil
