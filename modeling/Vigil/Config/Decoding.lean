import Vigil.Config.Options
import Vigil.Json.Basic

/-!
# Decoding configurations

Options and alerts are decoded from configuration values. A structure is given as
an object by field names or as a list by field positions; unknown names are left
alone, a field that is left out takes its default, and a field that does not
decode makes the whole structure undecodable.
-/

namespace Vigil.Config

/-- The members of a structure, by name or by position. -/
inductive Members where
  | named (fields : Json.Fields)
  | placed (items : List Json)

namespace Members

/-- The members of a value that can be a structure of `count` fields. -/
def of? (count : Nat) : Json → Option Members
  | .object fields => some (named fields)
  | .list items => if items.length ≤ count then some (placed items) else none
  | _ => none

/-- The member for a field. -/
def get? (members : Members) (place : Nat) (name : String) : Option Json :=
  match members with
  | named fields => fields.get? name
  | placed items => items[place]?

/-- A field that must be given. -/
def required (members : Members) (place : Nat) (name : String) (decode : Json → Option α) :
    Option α :=
  (members.get? place name).bind decode

/-- A field with a default. -/
def withDefault (members : Members) (place : Nat) (name : String) (default : α)
    (decode : Json → Option α) : Option α :=
  match members.get? place name with
  | some value => decode value
  | none => some default

/-- A field that may be left out of an object, where null counts as left out. -/
def optional (members : Members) (place : Nat) (name : String) (decode : Json → Option α) :
    Option (Option α) :=
  match members, members.get? place name with
  | named _, none => some none
  | placed _, none => none
  | _, some .null => some none
  | _, some value => (decode value).map some

end Members

/-- A value that may be null. -/
def nullable (decode : Json → Option α) : Json → Option (Option α)
  | .null => some none
  | value => (decode value).map some

/-- A text. -/
def text : Json → Option String
  | .text s => some s
  | _ => none

/-- A boolean. -/
def bool : Json → Option Bool
  | .bool b => some b
  | _ => none

/-- A number. -/
def number : Json → Option Double
  | .number n => some n.toDouble
  | _ => none

/-- A list of which every item decodes. -/
def list (decode : Json → Option α) : Json → Option (List α)
  | .list items => items.mapM decode
  | _ => none

/-- The name of a choice, alone or as the one key of an object without a value. -/
def choice : Json → Option String
  | .text s => some s
  | .object [(name, .null)] => some name
  | _ => none

/-- A level. -/
def level (value : Json) : Option Level := (choice value).bind Level.ofName?

/-- A reduction. -/
def reduction (value : Json) : Option Graphite.Reduction :=
  (choice value).bind Graphite.Reduction.ofName?

/-- A value format. -/
def format (value : Json) : Option ValueFormat := (text value).bind ValueFormat.ofName?

/-- An interval setting: any number is seconds and any text is a text. -/
def intervalSetting : Json → Option IntervalSetting
  | .number n => some (.seconds n.toDouble)
  | .text s => some (.text s)
  | _ => none

/-- Texts by name. -/
def textFields : Json → Option (List (String × String))
  | .object fields => fields.mapM fun field => (text field.2).map fun s => (field.1, s)
  | _ => none

/-- The settings of the HTTP handler. -/
def httpConfig (value : Json) : Option HttpConfig := do
  let members ← Members.of? 3 value
  return {
    url := ← members.required 0 "url" text
    method := ← members.withDefault 1 "method" HttpConfig.defaultMethod text
    params := ← members.withDefault 2 "params" [] textFields }

/-- The settings of one alert. -/
def alertConfig (value : Json) : Option AlertConfig := do
  let members ← Members.of? 18 value
  return {
    name := ← members.withDefault 0 "name" "" text
    query := ← members.withDefault 1 "query" "" text
    source := ← members.withDefault 2 "source" AlertConfig.defaultSource text
    rules := ← members.withDefault 3 "rules" [] (list text)
    interval := ← members.optional 4 "interval" intervalSetting
    timeWindow := ← members.optional 5 "time_window" intervalSetting
    lag := ← members.optional 6 "until" intervalSetting
    historySize := ← members.optional 7 "history_size" intervalSetting
    noData := ← members.optional 8 "no_data" level
    loadingError := ← members.optional 9 "loading_error" level
    sendInitial := ← members.optional 10 "send_initial" bool
    method := ← members.optional 11 "method" text
    format := ← members.optional 12 "format" format
    requestTimeout := ← members.optional 13 "request_timeout" number
    connectTimeout := ← members.optional 14 "connect_timeout" number
    gapValue := ← members.optional 15 "default_nan_value" number
    ignoreGaps := ← members.optional 16 "ignore_nan" bool
    validateCert := ← members.optional 17 "validate_cert" bool }

/-- The options; every field that is left out has its default. -/
def options (value : Json) : Option Options := do
  let members ← Members.of? 29 value
  let d := Options.default
  return {
    graphiteUrl := ← members.withDefault 0 "graphite_url" d.graphiteUrl text
    publicGraphiteUrl :=
      ← members.withDefault 1 "public_graphite_url" d.publicGraphiteUrl (nullable text)
    authUsername := ← members.withDefault 2 "auth_username" d.authUsername (nullable text)
    authPassword := ← members.withDefault 3 "auth_password" d.authPassword (nullable text)
    interval := ← members.withDefault 4 "interval" d.interval intervalSetting
    timeWindow := ← members.withDefault 5 "time_window" d.timeWindow (nullable intervalSetting)
    lag := ← members.withDefault 6 "until" d.lag intervalSetting
    historySize := ← members.withDefault 7 "history_size" d.historySize intervalSetting
    repeatInterval := ← members.withDefault 8 "repeat_interval" d.repeatInterval intervalSetting
    method := ← members.withDefault 9 "method" d.method reduction
    format := ← members.withDefault 10 "format" d.format format
    noData := ← members.withDefault 11 "no_data" d.noData level
    loadingError := ← members.withDefault 12 "loading_error" d.loadingError level
    sendInitial := ← members.withDefault 13 "send_initial" d.sendInitial bool
    requestTimeout := ← members.withDefault 14 "request_timeout" d.requestTimeout number
    connectTimeout := ← members.withDefault 15 "connect_timeout" d.connectTimeout number
    gapValue := ← members.withDefault 16 "default_nan_value" d.gapValue number
    ignoreGaps := ← members.withDefault 17 "ignore_nan" d.ignoreGaps bool
    debug := ← members.withDefault 18 "debug" d.debug bool
    logging := ← members.withDefault 19 "logging" d.logging text
    messagePrefix := ← members.withDefault 20 "prefix" d.messagePrefix text
    pidfile := ← members.withDefault 21 "pidfile" d.pidfile (nullable text)
    criticalHandlers :=
      ← members.withDefault 22 "critical_handlers" d.criticalHandlers (list text)
    warningHandlers := ← members.withDefault 23 "warning_handlers" d.warningHandlers (list text)
    normalHandlers := ← members.withDefault 24 "normal_handlers" d.normalHandlers (list text)
    noDataHandlers := ← members.withDefault 25 "no_data_handlers" d.noDataHandlers (list text)
    http := ← members.withDefault 26 "http" d.http (nullable httpConfig)
    alerts := ← members.withDefault 27 "alerts" d.alerts (list alertConfig)
    includes := ← members.withDefault 28 "include" d.includes (list text) }

end Vigil.Config
