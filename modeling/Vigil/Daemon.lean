import Vigil.Config.Loading
import Vigil.LogFilter
import Vigil.Rehearsal.Reactor

/-!
# The daemon

The daemon reads its options, builds a reactor and runs it until it is told to stop.
Told to reload, it reads its options again and applies them if it can. It has no
connection to any server, so that every request fails.
-/

namespace Vigil

/-- What the environment of the daemon names. -/
structure Environment where
  config : Option String
  graphiteUrl : Option String
  pidfile : Option String
  logFilter : Option String

/-- Why the daemon ends before it runs. -/
inductive DaemonFault where
  | config (fault : Config.LoadingFault)
  | reactor (fault : ReactorFault)
deriving DecidableEq

/-- The message of a daemon that does not run. -/
def DaemonFault.message : DaemonFault → String
  | config fault => fault.message
  | reactor fault => fault.message

/-- The daemon while it runs. -/
structure Daemon where
  environment : Environment
  path : Option String
  filter : LogFilter
  run : Rehearsal.ReactorRun

namespace Daemon

/-- The name of the program in its log. -/
def name : String := "beacon"

/-- The version of the program. -/
def version : String := "0.1.0"

/-- The configuration that is read if none is named. -/
def defaultPath : String := "beacon.json"

/-- The part of the program that reads configurations. -/
def loaderPlace : String := "config::loader"

/-- The target of a part of the program; the daemon itself is the whole program. -/
def target (place : String) : String := if place.isEmpty then name else name ++ "::" ++ place

/-- A line of the log. -/
def line (entry : LogEntry) : String :=
  entry.severity.name ++ " " ++ target entry.place ++ ": " ++ entry.message
    ++ String.join (entry.details.map fun detail => " " ++ detail.1 ++ "=" ++ detail.2)

/-- The lines of those entries that a filter shows. -/
def lines (filter : LogFilter) (entries : List LogEntry) : List String :=
  (entries.filter fun entry => filter.shows (target entry.place) entry.severity).map line

/-- An entry of the daemon that is only worth knowing. -/
def info (message : String) (details : List (String × String)) : LogEntry :=
  ⟨.info, "", message, details⟩

/-- The path of the configuration: the named one, or else the usual one if it is there. -/
def configPath? (environment : Environment) (host : Host) : Option String :=
  match environment.config with
  | some path => some path
  | none => if host.files.contains host.directory defaultPath then some defaultPath else none

/-- Options as the environment changes them. -/
def override (environment : Environment) (options : Options) : Options :=
  { options with
    graphiteUrl := environment.graphiteUrl.getD options.graphiteUrl
    pidfile := environment.pidfile.or options.pidfile }

/-- The entry of an included file. -/
def includeEntry (path : String) : LogEntry :=
  ⟨.info, loaderPlace, "Load configuration", [("path", path)]⟩

/-- Reads the options; without a configuration they are the usual ones. -/
def readOptions (environment : Environment) (host : Host) :
    Option String → List LogEntry × Except Config.LoadingFault Options
  | none => ([], .ok (override environment Options.default))
  | some path =>
      let (tried, result) := Config.load host.files host.directory path
      (tried.map includeEntry, result.map (override environment))

/-- The paths that the daemon looks at, as far as they are known from the files: the configuration,
the files that it includes, and the pidfile. -/
def paths (environment : Environment) (host : Host) : List String :=
  let config := environment.config.getD defaultPath
  let (tried, result) := Config.load host.files host.directory config
  let pidfile := match result with
    | .ok options => (override environment options).pidfile
    | .error _ => environment.pidfile
  config :: tried ++ pidfile.toList

/-- The filter of the log: that of the environment, or else that of the options. -/
def logFilter (environment : Environment) (options : Options) : LogFilter :=
  match environment.logFilter.bind LogFilter.read? with
  | some filter => filter
  | none => LogFilter.readLossy (name ++ "=" ++ options.logging)

/-- What the daemon says about its options. -/
def banner (path : Option String) (options : Options) : List LogEntry :=
  [info (name.capitalize ++ " configuration:") [], info ("  Config: " ++ path.getD "defaults") [],
    info ("  Graphite: " ++ options.graphiteUrl) [],
    info ("  Alerts: " ++ String.ofList (Decimal.numeral options.alerts.length)) [],
    info ("  Repeat interval: " ++ options.repeatInterval.display) []]
    ++ if options.debug then [info "  Debug mode: polling every alert every 5 seconds" []] else []

/-- The entries of the handlers that can be made. -/
def registered (registry : HandlerRegistry) : List LogEntry :=
  registry.factories.keys.map fun handler =>
    ⟨.debug, HandlerRegistry.place, "Register handler", [("handler", handler)]⟩

/-- No request of any alert reaches a server. -/
def script (_ : String) : Rehearsal.Script := [⟨0, .unreachable⟩]

/-- Builds and starts a reactor. -/
def boot (options : Options) (host : Host) (now : Int) :
    List LogEntry × Except ReactorFault Rehearsal.ReactorRun :=
  let opening := registered HandlerRegistry.standard
  match Reactor.make options SourceRegistry.standard HandlerRegistry.standard ⟨0, now⟩ with
  | (log, .error fault) => (opening ++ log, .error fault)
  | (log, .ok reactor) =>
      let (run, result) := (Rehearsal.ReactorRun.make reactor host script now).start
      let entries := opening ++ log ++ run.journal.log.map (·.item)
      match result with
      | .error fault => (entries, .error fault)
      | .ok () =>
          let started := info (name.capitalize ++ " started") [("version", Text.quoted version)]
          (entries ++ [started], .ok run.turnPage)

/-- The lines that a run gave since the last page, and the run on a new page. -/
def turn (daemon : Daemon) (run : Rehearsal.ReactorRun) : Daemon × List String :=
  ({ daemon with run := run.turnPage }, lines daemon.filter (run.journal.log.map (·.item)))

/-- Lets time pass. -/
def advance (daemon : Daemon) (span : Nat) : Daemon × List String :=
  daemon.turn (daemon.run.advance span)

/-- Starts the daemon. -/
def start (environment : Environment) (host : Host) (now : Int) :
    List String × Except DaemonFault Daemon :=
  let path := configPath? environment host
  match (readOptions environment host path).2 with
  | .error fault => ([], .error (.config fault))
  | .ok options =>
      let filter := logFilter environment options
      let (log, booted) := boot options host now
      let shown := lines filter (banner path options ++ log)
      match booted with
      | .error fault => (shown, .error (.reactor fault))
      | .ok run =>
          let (daemon, more) := advance ⟨environment, path, filter, run⟩ 0
          (shown ++ more, .ok daemon)

/-- Reads the options again and applies them; what cannot be applied changes nothing. -/
def reload (daemon : Daemon) : Daemon × List String :=
  let opening := info "Reloading configuration" []
  match readOptions daemon.environment daemon.run.host daemon.path with
  | (log, .error fault) =>
      let closing := ⟨.error, "", "Failed to read configuration", [("error", fault.message)]⟩
      (daemon, lines daemon.filter (opening :: log ++ [closing]))
  | (log, .ok options) =>
      let (run, result) := daemon.run.reinit options
      let closing := match result with
        | .ok n => info "Configuration reloaded" [Reactor.countDetail "alerts" n]
        | .error fault => ⟨.error, "", "Reload rejected", [("error", fault.message)]⟩
      let (daemon, applied) := daemon.turn run
      let (daemon, more) := daemon.advance 0
      (daemon, lines daemon.filter (opening :: log) ++ applied ++ lines daemon.filter [closing] ++ more)

/-- Stops the daemon. -/
def stop (daemon : Daemon) : Daemon × List String :=
  let (daemon, stopped) := daemon.turn daemon.run.stop
  (daemon, stopped ++ lines daemon.filter [info (name.capitalize ++ " stopped") []])

/-- The files change while the daemon runs. -/
def changeFiles (daemon : Daemon) (change : Files → Files) : Daemon :=
  let host := daemon.run.host
  { daemon with run := { daemon.run with host := { host with files := change host.files } } }

end Daemon

end Vigil
