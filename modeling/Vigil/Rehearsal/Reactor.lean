import Vigil.Reactor.Running
import Vigil.Rehearsal.Course
import Vigil.Rehearsal.Journal
import Vigil.Rehearsal.Script

/-!
# Rehearsing a reactor

A reactor runs on a clock of its own, and each of its alerts has a script. What may
happen next is listed as turns with their times, and the earliest turn is taken; of
turns at one time the first of the list is taken.
-/

namespace Vigil.Rehearsal

/-- What may happen next while the reactor runs. -/
inductive Turn where
  | finishDispatch
  | dispatch
  | endDispatcher
  | arrive (key : AlertKey) (result : FetchResult)
  | fire (key : AlertKey)
  | repeatLevels

/-- A reactor in a rehearsal. -/
structure ReactorRun where
  /-- Milliseconds since the rehearsal began. -/
  clock : Nat
  /-- The wall clock at the beginning, in milliseconds. -/
  origin : Int
  host : Host
  reactor : Reactor
  /-- The script of an alert by its name. -/
  scripts : String → Script
  wires : Table AlertKey Wire
  journal : Journal

namespace ReactorRun

/-- The beginning of a rehearsal. -/
def make (reactor : Reactor) (host : Host) (scripts : String → Script) (origin : Int) :
    ReactorRun where
  clock := 0
  origin := origin
  host := host
  reactor := reactor
  scripts := scripts
  wires := Table.empty
  journal := Journal.empty

/-- Both clocks. -/
def moment (run : ReactorRun) : Moment := ⟨run.clock, run.origin + run.clock⟩

/-- The connection of an alert. -/
def wire (run : ReactorRun) (key : AlertKey) : Wire :=
  (run.wires.get? key).getD (Wire.ofScript (run.scripts key.1))

/-- Sends a request over the connection of its alert. -/
def send (run : ReactorRun) (asked : AlertKey × FetchRequest) : ReactorRun :=
  { run with
    wires := run.wires.set asked.1 ((run.wire asked.1).send run.clock)
    journal := run.journal.addRequests run.clock [⟨asked.1.1, asked.2⟩] }

/-- Notes what the reactor makes known, and sends its requests. -/
def note (run : ReactorRun) (effects : ReactorEffects) : ReactorRun :=
  let journal := (run.journal.addLog run.clock effects.log).addReceipts run.clock effects.receipts
  effects.requests.foldl send { run with journal := journal }

/-- The reactor after a step that only writes to the log. -/
def noteLog (run : ReactorRun) (step : Reactor × List LogEntry) : ReactorRun :=
  { run with reactor := step.1 }.note (.logged step.2)

/-- The turn of the dispatcher. -/
def dispatcherTurns (run : ReactorRun) : List (Nat × Turn) :=
  match run.reactor.dispatcher with
  | none => []
  | some dispatcher =>
      match dispatcher.delivery with
      | some delivery => [(delivery.stop, .finishDispatch)]
      | none =>
          if !run.reactor.queue.isEmpty then [(run.clock, .dispatch)]
          else if dispatcher.stopping then [(run.clock, .endDispatcher)]
          else []

/-- The results that are to arrive. -/
def arrivalTurns (run : ReactorRun) : List (Nat × Turn) :=
  run.wires.entries.filterMap fun entry =>
    entry.2.arrival.map fun arrival => (arrival.time, .arrive entry.1 arrival.result)

/-- The timers of the alerts. -/
def timerTurns (run : ReactorRun) : List (Nat × Turn) :=
  run.reactor.monitors.entries.filterMap fun entry =>
    (entry.2.timer.bind Timer.dueAt?).map fun time => (time, .fire entry.1)

/-- The turn of the repeater. -/
def repeaterTurns (run : ReactorRun) : List (Nat × Turn) :=
  (run.reactor.repeater.map fun ticker => (ticker.dueAt, Turn.repeatLevels)).toList

/-- All turns with their times. -/
def turns (run : ReactorRun) : List (Nat × Turn) :=
  run.dispatcherTurns ++ run.arrivalTurns ++ run.timerTurns ++ run.repeaterTurns

/-- The earliest of some turns, and the first one of those. -/
def earliest? : List (Nat × Turn) → Option (Nat × Turn)
  | [] => none
  | turn :: rest =>
      match earliest? rest with
      | some other => if other.1 < turn.1 then some other else some turn
      | none => some turn

/-- The next turn. -/
def next? (run : ReactorRun) : Option (Nat × Turn) := earliest? run.turns

/-- Takes a turn. -/
def take (run : ReactorRun) : Turn → ReactorRun
  | .finishDispatch => run.noteLog run.reactor.finishDispatch
  | .dispatch =>
      let (reactor, effects) := run.reactor.dispatch run.clock
      { run with reactor := reactor }.note effects
  | .endDispatcher => run.noteLog run.reactor.endDispatcher
  | .arrive key result =>
      { run with wires := run.wires.update key Wire.taken }.noteLog
        (run.reactor.finishLoad key result)
  | .fire key =>
      let (reactor, effects) := run.reactor.fire key
      { run with reactor := reactor }.note effects
  | .repeatLevels => run.noteLog run.reactor.repeatNow

/-- Takes the next turn at its time. -/
def act (time : Nat) (run : ReactorRun) : ReactorRun :=
  match run.next? with
  | some (_, turn) => { run with clock := max run.clock time }.take turn
  | none => run

/-- How a rehearsal goes on. -/
def course : Course ReactorRun := ⟨fun run => run.next?.map (·.1), act⟩

/-- Everything happens for which no time has to pass. -/
def settle (run : ReactorRun) : ReactorRun := course.untilTime run.clock run

/-- Time passes. -/
def advance (run : ReactorRun) (span : Nat) : ReactorRun :=
  let limit := run.clock + span
  { course.untilTime limit run with clock := limit }

/-- Starts the reactor. -/
def start (run : ReactorRun) : ReactorRun × Except ReactorFault Unit :=
  let (reactor, host, log, result) := run.reactor.start run.host run.moment
  ({ run with host := host }.noteLog (reactor, log), result)

/-- Stops the reactor, which may take time; its pidfile goes last. -/
def stop (run : ReactorRun) : ReactorRun :=
  if run.reactor.running then
    let run := run.noteLog run.reactor.requestStop
    let run := course.untilDone (fun run => run.reactor.dispatcher.isNone) run
    let (host, log) := run.reactor.removePidfile run.host
    { run with host := host }.note (.logged log)
  else run

/-- Brings the levels of all alerts back to normal. -/
def repeatLevels (run : ReactorRun) : ReactorRun := run.noteLog run.reactor.resetAll

/-- Applies options; every alert that is made has its script from the beginning. -/
def reinit (run : ReactorRun) (options : Options) : ReactorRun × Except ReactorFault Nat :=
  let (reactor, log, result) := run.reactor.reinit run.moment options
  let wires := if result.isOk then Table.empty else run.wires
  ({ run with wires := wires }.noteLog (reactor, log), result)

/-- Delivers a notification past the queue, and waits until all handlers are done. -/
def notify (run : ReactorRun) (event : Event) : ReactorRun :=
  let (reactor, delivery, effects) := run.reactor.beginDelivery run.clock event
  let run := ({ run with reactor := reactor }.note effects).advance (delivery.stop - run.clock)
  run.noteLog (run.reactor.finishDelivery delivery)

/-- Delivers notifications one after the other. -/
def notifyAll (run : ReactorRun) (events : List Event) : ReactorRun := events.foldl notify run

/-- The rehearsal with a new journal. -/
def turnPage (run : ReactorRun) : ReactorRun := { run with journal := Journal.empty }

end ReactorRun

end Vigil.Rehearsal
