import Vigil.Reactor.Basic

/-!
# The reactor at work

Starting and stopping the reactor, and what happens in between: loads begin and end,
notifications are queued and delivered, and levels are brought back to normal. A stop
has two parts, the request and its end, because the queue is delivered first.
-/

namespace Vigil.Reactor

/-- Writes the pidfile of the options, if they name one. -/
def writePidfile (reactor : Reactor) (host : Host) : Except ReactorFault Host :=
  match reactor.options.pidfile with
  | none => .ok host
  | some path =>
      let bytes := (String.ofList (Decimal.numeral host.processId)).toUTF8.toList
      match host.files.write? host.directory path bytes with
      | some files => .ok { host with files := files }
      | none => .error (.pidfile path)

/-- The entry of a pidfile that is not there to be removed. -/
def pidfileEntry (path : String) : LogEntry :=
  ⟨.warning, place, "Failed to remove pidfile", [("path", path)]⟩

/-- Removes the pidfile of the options, if they name one. -/
def removePidfile (reactor : Reactor) (host : Host) : Host × List LogEntry :=
  match reactor.options.pidfile with
  | none => (host, [])
  | some path =>
      match host.files.remove? host.directory path with
      | some files => ({ host with files := files }, [])
      | none => (host, [pidfileEntry path])

/-- The reactor with monitors, dispatcher and repeater started. A dispatcher that has not ended
keeps the queue, and no other one is started. -/
def launch (reactor : Reactor) (now : Moment) : Reactor :=
  { reactor with
    monitors := startMonitors now reactor.monitors
    dispatcher := some (reactor.dispatcher.getD Dispatcher.idle)
    repeater := some (Ticker.now now.elapsed reactor.repeatPeriod).advance
    running := true }

/-- Starts the reactor, unless it runs or its pidfile cannot be written. -/
def start (reactor : Reactor) (host : Host) (now : Moment) :
    Reactor × Host × List LogEntry × Except ReactorFault Unit :=
  if reactor.running then (reactor, host, [], .ok ())
  else
    match reactor.writePidfile host with
    | .error fault => (reactor, host, [], .error fault)
    | .ok host =>
        (reactor.launch now, host, [info "Reactor starting" [countDetail "alerts" reactor.size]],
          .ok ())

/-- Asks a running reactor to stop: no alert is polled any more, and the dispatcher is to end. -/
def requestStop (reactor : Reactor) : Reactor × List LogEntry :=
  if reactor.running then
    ({ reactor with
        monitors := stopMonitors reactor.monitors
        dispatcher := reactor.dispatcher.map fun d => { d with stopping := true }
        repeater := none
        running := false }, [info "Reactor stopping" []])
  else (reactor, [])

/-- Whether the dispatcher has nothing left to deliver and is to end. -/
def isDrained (reactor : Reactor) : Bool :=
  reactor.queue.isEmpty && reactor.dispatcher.any fun d => d.stopping && d.delivery.isNone

/-- Ends the dispatcher, whose queue goes back to the reactor. -/
def endDispatcher (reactor : Reactor) : Reactor × List LogEntry :=
  ({ reactor with dispatcher := none }, [info "Dispatcher shutting down" []])

/-- Queues notifications. -/
def emit (reactor : Reactor) (events : List Event) : Reactor :=
  { reactor with queue := reactor.queue ++ events }

/-- Begins a delivery to the handlers of the level of a notification. -/
def beginDelivery (reactor : Reactor) (now : Nat) (event : Event) :
    Reactor × Delivery × ReactorEffects :=
  let (delivery, log, receipts) := reactor.handlers.deliver now event
  ({ reactor with stats := reactor.stats.begin }, delivery, ⟨log, [], receipts⟩)

/-- Ends a delivery: its handlers are counted, and those that failed are reported. -/
def finishDelivery (reactor : Reactor) (delivery : Delivery) : Reactor × List LogEntry :=
  ({ reactor with stats := reactor.stats.countAll delivery.attempts }, delivery.failures)

/-- The dispatcher without a delivery takes the first notification of the queue. -/
def dispatch (reactor : Reactor) (now : Nat) : Reactor × ReactorEffects :=
  match reactor.dispatcher, reactor.queue with
  | some ⟨none, stopping⟩, event :: rest =>
      let (next, delivery, effects) := { reactor with queue := rest }.beginDelivery now event
      ({ next with dispatcher := some ⟨some delivery, stopping⟩ }, effects)
  | _, _ => (reactor, .none)

/-- The dispatcher ends its delivery. -/
def finishDispatch (reactor : Reactor) : Reactor × List LogEntry :=
  match reactor.dispatcher with
  | some ⟨some delivery, stopping⟩ =>
      { reactor with dispatcher := some ⟨none, stopping⟩ }.finishDelivery delivery
  | _ => (reactor, [])

/-- Puts a monitor in the place of the one of its key, and queues what it notifies. -/
def settle (reactor : Reactor) (key : AlertKey) (m : Monitor) (effects : Effects) :
    Reactor × List LogEntry :=
  ({ reactor with monitors := reactor.monitors.update key fun _ => m }.emit effects.events,
    effects.log)

/-- The timer of an alert is due: it goes on, and a load begins. -/
def fire (reactor : Reactor) (key : AlertKey) : Reactor × ReactorEffects :=
  match reactor.monitor? key with
  | none => (reactor, .none)
  | some m =>
      let (m, effects, request) := m.advanceTimer.beginLoad
      let (next, log) := reactor.settle key m effects
      (next, ⟨log, (request.map fun asked => (key, asked)).toList, []⟩)

/-- The load of an alert ends. -/
def finishLoad (reactor : Reactor) (key : AlertKey) (result : FetchResult) :
    Reactor × List LogEntry :=
  match reactor.monitor? key with
  | none => (reactor, [])
  | some m =>
      let (m, effects) := m.finishLoad result
      reactor.settle key m effects

/-- Brings the levels of all alerts back to normal. -/
def resetAll (reactor : Reactor) : Reactor × List LogEntry :=
  ({ reactor with monitors := reactor.monitors.map Monitor.reset }, [info "Reset alerts" []])

/-- The repeater is due: it goes on, and the levels are brought back to normal. -/
def repeatNow (reactor : Reactor) : Reactor × List LogEntry :=
  { reactor with repeater := reactor.repeater.map Ticker.advance }.resetAll

end Vigil.Reactor
