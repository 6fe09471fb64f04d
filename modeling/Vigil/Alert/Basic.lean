import Vigil.Config.Options
import Vigil.Graphite.RenderUrl
import Vigil.History
import Vigil.Rule.Reading
import Vigil.Schedule
import Vigil.Transport

/-!
# Alerts

An alert is compiled from its configuration and the options. Its settings are
checked in a fixed order, and the first one that is refused is the cause. Two
alerts with one name and one source are the same alert.
-/

namespace Vigil

/-- A limit on time that a setting gives. -/
inductive TimeLimit where
  | connect
  | request
deriving DecidableEq, Repr

/-- The name of a limit in configurations. -/
def TimeLimit.name : TimeLimit → String
  | connect => "connect_timeout"
  | request => "request_timeout"

/-- Why an alert is refused. -/
inductive AlertFault where
  | missingName
  | missingQuery
  | noRules
  | rule (e : InvalidRule)
  | interval (e : InvalidInterval)
  | schedule (fault : ScheduleFault)
  | unknownSource (tag : String)
  | limit (which : TimeLimit)
  | reduction (word : String)
  | address (url : String)
  | method (word : String)
deriving DecidableEq

/-- The wording of a fault. -/
def AlertFault.reason : AlertFault → String
  | missingName => "Alert's name should be defined and not empty"
  | missingQuery => "alert's query should be defined and not empty"
  | noRules => "alert's rules are empty"
  | rule e => e.message
  | interval e => e.message
  | schedule fault => fault.message
  | unknownSource tag => "unknown source " ++ Text.quoted tag
  | limit which => which.name ++ " must be a non-negative number of seconds"
  | reduction word => Graphite.Reduction.unknownName word
  | address url => "invalid graphite_url " ++ Text.quoted url
  | method word => "invalid HTTP method " ++ Text.quoted word

/-- A refused alert: its name and why it is refused. -/
structure InvalidAlert where
  name : String
  fault : AlertFault
deriving DecidableEq

/-- The message of a refused alert; one without a name is not named. -/
def InvalidAlert.message (e : InvalidAlert) : String :=
  if e.fault = .missingName then e.fault.reason else e.name ++ ": " ++ e.fault.reason

/-- A compiled alert. -/
structure Alert where
  name : String
  source : String
  query : String
  schedule : Schedule
  timeWindow : Interval
  lag : Interval
  /-- From the most severe rule on. -/
  rules : List Rule
  historySize : Nat
  noData : Level
  loadingError : Level
  sendInitial : Bool
  format : ValueFormat
  timeouts : Timeouts
  /-- The base of links to graphs. -/
  publicUrl : String

namespace Alert

/-- The poll interval. -/
def interval (alert : Alert) : Interval := alert.schedule.interval

/-- The rules of a configuration, from the most severe on. -/
def readRules (raws : List String) : Except AlertFault (List Rule) :=
  (raws.mapM Rule.read).map Rule.sortBySeverity |>.mapError .rule

/-- The interval of a setting. -/
def readInterval (setting : IntervalSetting) : Except AlertFault Interval :=
  setting.interval.mapError .interval

/-- The duration of a limit. -/
def readLimit (which : TimeLimit) (seconds : Double) : Except AlertFault Duration :=
  match Duration.ofSeconds? seconds with
  | some d => .ok d
  | none => .error (.limit which)

/-- The alert of a configuration with a name that is not empty. -/
def compileNamed (now : Int) (name : String) (config : AlertConfig) (options : Options) :
    Except AlertFault Alert := do
  if (Text.trim config.query.toList).isEmpty then throw .missingQuery
  if config.rules.isEmpty then throw .noRules
  let rules ← readRules config.rules
  let schedule ← (Schedule.ofSetting now (config.interval.getD options.interval)).mapError .schedule
  let timeWindow ← match config.timeWindow.or options.timeWindow with
    | some setting => readInterval setting
    | none => pure schedule.interval
  let lag ← readInterval (config.lag.getD options.lag)
  let kept ← readInterval (config.historySize.getD options.historySize)
  let connect ← readLimit .connect (config.connectTimeout.getD options.connectTimeout)
  let request ← readLimit .request (config.requestTimeout.getD options.requestTimeout)
  return {
    name := name
    source := config.source
    query := config.query
    schedule := schedule
    timeWindow := timeWindow
    lag := lag
    rules := rules
    historySize := History.capacityFor kept.millis schedule.interval.millis
    noData := config.noData.getD options.noData
    loadingError := config.loadingError.getD options.loadingError
    sendInitial := config.sendInitial.getD options.sendInitial
    format := config.format.getD options.format
    timeouts := ⟨connect, request⟩
    publicUrl := options.publicUrl }

/-- Compiles an alert at a time in milliseconds since the epoch. -/
def compile (now : Int) (config : AlertConfig) (options : Options) : Except InvalidAlert Alert :=
  let name := String.ofList (Text.trim config.name.toList)
  if name.isEmpty then .error ⟨name, .missingName⟩
  else (compileNamed now name config options).mapError fun fault => ⟨name, fault⟩

/-- What tells alerts apart. -/
def key (alert : Alert) : String × String := (alert.name, alert.source)

/-- Whether two alerts are the same. -/
def same (a b : Alert) : Bool := a.key = b.key

/-- The source whose alerts have graphs. -/
def graphSource : String := "graphite"

/-- The address of the graph of a target. -/
def graphUrl? (alert : Alert) (target : String) : Option String :=
  if alert.source = graphSource then
    Graphite.renderUrl? alert.publicUrl target alert.timeWindow alert.lag false
  else none

/-- The alert as it is shown. -/
def text (alert : Alert) : String := alert.name ++ " (" ++ alert.schedule.text ++ ")"

end Alert

end Vigil
