import Vigil.Alert.Monitor
import Vigil.Files
import Vigil.Handler.Delivery

/-!
# The reactor

The reactor keeps a monitor for each alert of its options, and queues the
notifications of all of them. While it runs, a dispatcher takes notifications from
the front of the queue, one after the other, and a repeater brings the levels of all
alerts back to normal at a fixed period.
-/

namespace Vigil

/-- Why the reactor refuses something. -/
inductive ReactorFault where
  | noAlerts
  | repeatInterval (e : InvalidInterval)
  | zeroRepeatInterval
  | requestTimeout (seconds : Double)
  | pidfile (path : String)
deriving DecidableEq

/-- The message of a refusal. -/
def ReactorFault.message : ReactorFault → String
  | noAlerts => "No alerts could be loaded from the configuration"
  | repeatInterval e => "Invalid repeat_interval: " ++ e.message
  | zeroRepeatInterval => "repeat_interval must be positive"
  | requestTimeout seconds =>
      "request_timeout must be a positive number of seconds, got " ++ String.ofList seconds.text
  | pidfile path => "Failed to write pidfile " ++ path

/-- What tells alerts apart: the name and the source. -/
abbrev AlertKey := String × String

/-- The task that delivers notifications. -/
structure Dispatcher where
  /-- The delivery under way. -/
  delivery : Option Delivery
  /-- The dispatcher was asked to end once the queue is empty. -/
  stopping : Bool

/-- A dispatcher that waits for notifications. -/
def Dispatcher.idle : Dispatcher := ⟨none, false⟩

/-- What the reactor makes known: log entries, requests of alerts, and notifications that
handlers keep. -/
structure ReactorEffects where
  log : List LogEntry
  requests : List (AlertKey × FetchRequest)
  receipts : List Receipt

namespace ReactorEffects

/-- Nothing is made known. -/
def none : ReactorEffects := ⟨[], [], []⟩

/-- Only log entries are made known. -/
def logged (entries : List LogEntry) : ReactorEffects := ⟨entries, [], []⟩

/-- One after the other. -/
def append (first second : ReactorEffects) : ReactorEffects :=
  ⟨first.log ++ second.log, first.requests ++ second.requests, first.receipts ++ second.receipts⟩

instance : Append ReactorEffects := ⟨append⟩

end ReactorEffects

/-- Alerts and handlers at work. -/
structure Reactor where
  options : Options
  sources : SourceRegistry
  registry : HandlerRegistry
  handlers : HandlerTable
  monitors : Table AlertKey Monitor
  /-- Monitors of earlier options; their loads may still be under way. -/
  former : List Monitor
  repeatPeriod : Duration
  /-- Notifications that were not taken by the dispatcher yet. -/
  queue : List Event
  /-- While there is a dispatcher, it alone takes notifications from the queue. -/
  dispatcher : Option Dispatcher
  repeater : Option Ticker
  /-- Options were applied once. -/
  initialized : Bool
  running : Bool
  stats : DeliveryStats

/-- The surroundings of the reactor: a tree of files, and the number of its process. -/
structure Host where
  files : Files
  directory : Place
  processId : Nat

namespace Reactor

/-- The part of the program that reports for the reactor. -/
def place : String := "reactor"

/-- An entry that is only worth knowing. -/
def info (message : String) (details : List (String × String)) : LogEntry :=
  ⟨.info, place, message, details⟩

/-- A count as a detail of an entry. -/
def countDetail (name : String) (n : Nat) : String × String := (name, String.ofList (Decimal.numeral n))

/-- The period of the repeater, which must not be zero. -/
def readRepeatPeriod (options : Options) : Except ReactorFault Duration :=
  match options.repeatInterval.interval.bind Interval.duration with
  | .error e => .error (.repeatInterval e)
  | .ok period => if period.nanoseconds = 0 then .error .zeroRepeatInterval else .ok period

/-- The limit on the answer of a handler, which must not be zero. -/
def readLimit (options : Options) : Except ReactorFault Duration :=
  match Duration.positive? options.requestTimeout with
  | some limit => .ok limit
  | none => .error (.requestTimeout options.requestTimeout)

/-- The periods in options; the repeater is checked first. -/
def readPeriods (options : Options) : Except ReactorFault (Duration × Duration) :=
  match readRepeatPeriod options with
  | .error fault => .error fault
  | .ok period => (readLimit options).map fun limit => (period, limit)

/-- The monitor of one alert, which has not been started. -/
def makeMonitor (sources : SourceRegistry) (now : Moment) (options : Options)
    (config : AlertConfig) : Except InvalidAlert Monitor :=
  match Alert.compile now.wall config options with
  | .error fault => .error fault
  | .ok alert =>
      (sources.build alert config options).map fun source => Monitor.make alert source options.debug

/-- The entry of an alert that is refused. -/
def refusedEntry (fault : InvalidAlert) : LogEntry :=
  ⟨.error, place, "Invalid alert configuration", [("error", fault.message)]⟩

/-- The entry of an alert that is there already. -/
def duplicateEntry (alert : Alert) : LogEntry :=
  ⟨.warning, place, "Duplicate alert, skipping", [("alert", alert.text)]⟩

/-- The entry of an alert that has a monitor now. -/
def loadedEntry (alert : Alert) : LogEntry := info "Alert loaded" [("alert", alert.text)]

/-- Adds the monitor of an alert, unless the alert is refused or there already. -/
def addMonitor (table : Table AlertKey Monitor) :
    Except InvalidAlert Monitor → Table AlertKey Monitor × LogEntry
  | .error fault => (table, refusedEntry fault)
  | .ok m =>
      if table.contains m.alert.key then (table, duplicateEntry m.alert)
      else (table.set m.alert.key m, loadedEntry m.alert)

/-- Adds monitors in their order. -/
def addMonitors (table : Table AlertKey Monitor) :
    List (Except InvalidAlert Monitor) → Table AlertKey Monitor × List LogEntry
  | [] => (table, [])
  | made :: rest =>
      let (next, entry) := addMonitor table made
      let (last, log) := addMonitors next rest
      (last, entry :: log)

/-- The monitors of options: of alerts with one key, the first that is not refused. -/
def makeMonitors (sources : SourceRegistry) (now : Moment) (options : Options) :
    Table AlertKey Monitor × List LogEntry :=
  addMonitors Table.empty (options.alerts.map (makeMonitor sources now options))

/-- A reactor without options applied. -/
def blank (options : Options) (sources : SourceRegistry) (registry : HandlerRegistry)
    (period : Duration) : Reactor where
  options := options
  sources := sources
  registry := registry
  handlers := HandlerTable.empty
  monitors := Table.empty
  former := []
  repeatPeriod := period
  queue := []
  dispatcher := none
  repeater := none
  initialized := false
  running := false
  stats := DeliveryStats.zero

/-- Starts all monitors. -/
def startMonitors (now : Moment) (monitors : Table AlertKey Monitor) : Table AlertKey Monitor :=
  monitors.map fun m => m.start now

/-- Stops all monitors. -/
def stopMonitors (monitors : Table AlertKey Monitor) : Table AlertKey Monitor :=
  monitors.map Monitor.stop

/-- Replaces the handlers and the monitors by those of options that were checked. -/
def replaceSetup (reactor : Reactor) (now : Moment) (options : Options) (limit : Duration) :
    Reactor × List LogEntry :=
  let (registry, handlers, handlerLog) := reactor.registry.table options limit
  let (monitors, alertLog) := makeMonitors reactor.sources now options
  ({ reactor with
      registry := registry
      handlers := handlers
      monitors := monitors
      former := reactor.former ++ (stopMonitors reactor.monitors).values }, handlerLog ++ alertLog)

/-- The number of monitors. -/
def size (reactor : Reactor) : Nat := reactor.monitors.entries.length

/-- Whether none of the alerts of the first options could be used. -/
def isBarren (reactor : Reactor) (options : Options) : Bool :=
  !reactor.initialized && reactor.size = 0 && !options.alerts.isEmpty

/-- Makes options the current ones once their setup stands. -/
def adopt (reactor : Reactor) (now : Moment) (options : Options) (period : Duration) : Reactor :=
  { reactor with
    monitors := if reactor.running then startMonitors now reactor.monitors else reactor.monitors
    initialized := true
    repeatPeriod := period
    options := options }

/-- Applies options: all handlers and monitors are replaced, and the number of monitors is the
result. Refused options change nothing once the reactor is initialized. -/
def reinit (reactor : Reactor) (now : Moment) (options : Options) :
    Reactor × List LogEntry × Except ReactorFault Nat :=
  let opening := info "Read configuration" []
  match readPeriods options with
  | .error fault => (reactor, [opening], .error fault)
  | .ok (period, limit) =>
      let (next, log) := reactor.replaceSetup now options limit
      if next.isBarren options then (next, opening :: log, .error .noAlerts)
      else
        let closing := ⟨.debug, place, "Configuration applied", [countDetail "alerts" next.size]⟩
        (next.adopt now options period, opening :: log ++ [closing], .ok next.size)

/-- A reactor with its first options; the period of the repeater is checked before anything is
reported. -/
def make (options : Options) (sources : SourceRegistry) (registry : HandlerRegistry)
    (now : Moment) : List LogEntry × Except ReactorFault Reactor :=
  match readRepeatPeriod options with
  | .error fault => ([], .error fault)
  | .ok period =>
      match (blank options sources registry period).reinit now options with
      | (reactor, log, .ok _) => (log, .ok reactor)
      | (_, log, .error fault) => (log, .error fault)

/-- The monitor of an alert. -/
def monitor? (reactor : Reactor) (key : AlertKey) : Option Monitor := reactor.monitors.get? key

end Reactor

end Vigil
