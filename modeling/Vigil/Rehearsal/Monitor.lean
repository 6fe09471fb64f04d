import Vigil.Alert.Monitor
import Vigil.Rehearsal.Course
import Vigil.Rehearsal.Journal
import Vigil.Rehearsal.Script

/-!
# Rehearsing a monitor

One monitor runs on a clock of its own against a script. Its timer and the results of
its requests act when they are due; a result comes before a firing of the same time.
-/

namespace Vigil.Rehearsal

/-- A monitor in a rehearsal. -/
structure MonitorRun where
  /-- Milliseconds since the rehearsal began. -/
  clock : Nat
  /-- The wall clock at the beginning, in milliseconds. -/
  origin : Int
  monitor : Monitor
  wire : Wire
  /-- Somebody takes the notifications. -/
  listening : Bool
  journal : Journal

namespace MonitorRun

/-- The beginning of a rehearsal. -/
def make (monitor : Monitor) (script : Script) (origin : Int) : MonitorRun where
  clock := 0
  origin := origin
  monitor := monitor
  wire := Wire.ofScript script
  listening := true
  journal := Journal.empty

/-- Both clocks. -/
def moment (run : MonitorRun) : Moment := ⟨run.clock, run.origin + run.clock⟩

/-- Notes what the monitor makes known. -/
def note (run : MonitorRun) (effects : Effects) : MonitorRun :=
  let heard := if run.listening then effects.events else []
  { run with journal := (run.journal.addEvents run.clock heard).addLog run.clock effects.log }

/-- A load begins. -/
def load (run : MonitorRun) : MonitorRun :=
  let (monitor, effects, request) := run.monitor.beginLoad
  let run := { run with monitor := monitor }.note effects
  match request with
  | none => run
  | some request =>
      { run with
        wire := run.wire.send run.clock
        journal := run.journal.addRequests run.clock [⟨monitor.alert.name, request⟩] }

/-- The result of a request arrives. -/
def arrive (run : MonitorRun) (result : FetchResult) : MonitorRun :=
  let (monitor, effects) := run.monitor.finishLoad result
  { run with monitor := monitor, wire := run.wire.taken }.note effects

/-- The time of the next result or firing. -/
def due? (run : MonitorRun) : Option Nat :=
  let timer := run.monitor.timer.bind Timer.dueAt?
  match run.wire.arrival, timer with
  | some arrival, some fires => some (min arrival.time fires)
  | some arrival, none => some arrival.time
  | none, fires => fires

/-- The next result or firing. -/
def act (time : Nat) (run : MonitorRun) : MonitorRun :=
  let run := { run with clock := max run.clock time }
  match run.wire.arrival with
  | some arrival =>
      if arrival.time ≤ run.clock then run.arrive arrival.result
      else { run with monitor := run.monitor.advanceTimer }.load
  | none => { run with monitor := run.monitor.advanceTimer }.load

/-- How a rehearsal goes on. -/
def course : Course MonitorRun := ⟨due?, act⟩

/-- Everything happens for which no time has to pass. -/
def settle (run : MonitorRun) : MonitorRun := course.untilTime run.clock run

/-- Time passes. -/
def advance (run : MonitorRun) (span : Nat) : MonitorRun :=
  let limit := run.clock + span
  { course.untilTime limit run with clock := limit }

/-- A load begins, and time passes until it ends; one that meets another load ends at once. -/
def loadAwaited (run : MonitorRun) : MonitorRun :=
  if run.monitor.loading then run.load
  else course.untilDone (fun run => run.wire.arrival.isNone) run.load

/-- Takes samples. -/
def check (run : MonitorRun) (samples : List Sample) : MonitorRun :=
  let (monitor, events) := run.monitor.check samples
  { run with monitor := monitor }.note ⟨events, []⟩

/-- Starts the monitor. -/
def start (run : MonitorRun) : MonitorRun :=
  { run with monitor := run.monitor.start run.moment }

/-- Stops the monitor. -/
def stop (run : MonitorRun) : MonitorRun := { run with monitor := run.monitor.stop }

/-- Brings the levels back to normal. -/
def reset (run : MonitorRun) : MonitorRun := { run with monitor := run.monitor.reset }

/-- Nobody takes the notifications any more. -/
def close (run : MonitorRun) : MonitorRun := { run with listening := false }

/-- The rehearsal with a new journal. -/
def turnPage (run : MonitorRun) : MonitorRun := { run with journal := Journal.empty }

end MonitorRun

end Vigil.Rehearsal
