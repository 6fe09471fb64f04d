import Vigil.Config.Options
import Vigil.Json.Basic

/-!
# Encoding configurations

Options and alerts as configuration values. Every field is written, and a field
without a value is null, so that decoding an encoded structure gives it back.
-/

namespace Vigil.Config

/-- A finite number; no configuration holds any other one. -/
def ofNumber (x : Double) : Json := if x.isFinite then .number (.real x) else .null

/-- A value or null. -/
def ofNullable (encode : α → Json) : Option α → Json
  | some x => encode x
  | none => .null

/-- A list of texts. -/
def ofTexts (texts : List String) : Json := .list (texts.map .text)

/-- A level by its name. -/
def ofLevel (level : Level) : Json := .text level.name

/-- A value format by its name. -/
def ofFormat (format : ValueFormat) : Json := .text format.name

/-- An interval setting as a number or a text. -/
def ofIntervalSetting : IntervalSetting → Json
  | .seconds x => ofNumber x
  | .text s => .text s

/-- The settings of the HTTP handler. -/
def ofHttpConfig (http : HttpConfig) : Json :=
  .object (Json.Fields.ofList [
    ("url", .text http.url),
    ("method", .text http.method),
    ("params", .object (Json.Fields.ofList (http.params.map fun p => (p.1, .text p.2))))])

/-- The settings of one alert. -/
def ofAlertConfig (config : AlertConfig) : Json :=
  .object (Json.Fields.ofList [
    ("name", .text config.name),
    ("query", .text config.query),
    ("source", .text config.source),
    ("rules", ofTexts config.rules),
    ("interval", ofNullable ofIntervalSetting config.interval),
    ("time_window", ofNullable ofIntervalSetting config.timeWindow),
    ("until", ofNullable ofIntervalSetting config.lag),
    ("history_size", ofNullable ofIntervalSetting config.historySize),
    ("no_data", ofNullable ofLevel config.noData),
    ("loading_error", ofNullable ofLevel config.loadingError),
    ("send_initial", ofNullable .bool config.sendInitial),
    ("method", ofNullable .text config.method),
    ("format", ofNullable ofFormat config.format),
    ("request_timeout", ofNullable ofNumber config.requestTimeout),
    ("connect_timeout", ofNullable ofNumber config.connectTimeout),
    ("default_nan_value", ofNullable ofNumber config.gapValue),
    ("ignore_nan", ofNullable .bool config.ignoreGaps),
    ("validate_cert", ofNullable .bool config.validateCert)])

/-- The options. -/
def ofOptions (options : Options) : Json :=
  .object (Json.Fields.ofList [
    ("graphite_url", .text options.graphiteUrl),
    ("public_graphite_url", ofNullable .text options.publicGraphiteUrl),
    ("auth_username", ofNullable .text options.authUsername),
    ("auth_password", ofNullable .text options.authPassword),
    ("interval", ofIntervalSetting options.interval),
    ("time_window", ofNullable ofIntervalSetting options.timeWindow),
    ("until", ofIntervalSetting options.lag),
    ("history_size", ofIntervalSetting options.historySize),
    ("repeat_interval", ofIntervalSetting options.repeatInterval),
    ("method", .text options.method.name),
    ("format", ofFormat options.format),
    ("no_data", ofLevel options.noData),
    ("loading_error", ofLevel options.loadingError),
    ("send_initial", .bool options.sendInitial),
    ("request_timeout", ofNumber options.requestTimeout),
    ("connect_timeout", ofNumber options.connectTimeout),
    ("default_nan_value", ofNumber options.gapValue),
    ("ignore_nan", .bool options.ignoreGaps),
    ("debug", .bool options.debug),
    ("logging", .text options.logging),
    ("prefix", .text options.messagePrefix),
    ("pidfile", ofNullable .text options.pidfile),
    ("critical_handlers", ofTexts options.criticalHandlers),
    ("warning_handlers", ofTexts options.warningHandlers),
    ("normal_handlers", ofTexts options.normalHandlers),
    ("no_data_handlers", ofTexts options.noDataHandlers),
    ("http", ofNullable ofHttpConfig options.http),
    ("alerts", .list (options.alerts.map ofAlertConfig)),
    ("include", ofTexts options.includes)])

end Vigil.Config
