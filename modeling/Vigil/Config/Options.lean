import Vigil.Config.IntervalSetting
import Vigil.Graphite.Record
import Vigil.Level
import Vigil.ValueFormat

/-!
# Options and alert configurations

The settings of the whole watch and those of one alert. A setting that an alert
leaves out is taken from the options, and each option has a default.
-/

namespace Vigil

/-- Settings of the handler that forwards notifications over HTTP. -/
structure HttpConfig where
  url : String
  method : String
  /-- Fixed fields of every notification, in the order of their names. -/
  params : List (String × String)
deriving DecidableEq

/-- The method of the HTTP handler when none is given. -/
def HttpConfig.defaultMethod : String := "GET"

/-- Settings of one alert. -/
structure AlertConfig where
  name : String
  query : String
  source : String
  rules : List String
  interval : Option IntervalSetting
  timeWindow : Option IntervalSetting
  lag : Option IntervalSetting
  historySize : Option IntervalSetting
  noData : Option Level
  loadingError : Option Level
  sendInitial : Option Bool
  method : Option String
  format : Option ValueFormat
  requestTimeout : Option Double
  connectTimeout : Option Double
  gapValue : Option Double
  ignoreGaps : Option Bool
  validateCert : Option Bool
deriving DecidableEq

namespace AlertConfig

/-- The source of an alert that names none. -/
def defaultSource : String := "graphite"

/-- An alert that takes every setting it can from the options. -/
def make (name query : String) (rules : List String) : AlertConfig where
  name := name
  query := query
  source := defaultSource
  rules := rules
  interval := none
  timeWindow := none
  lag := none
  historySize := none
  noData := none
  loadingError := none
  sendInitial := none
  method := none
  format := none
  requestTimeout := none
  connectTimeout := none
  gapValue := none
  ignoreGaps := none
  validateCert := none

/-- The alert with another source. -/
def withSource (config : AlertConfig) (source : String) : AlertConfig :=
  { config with source := source }

/-- The alert with an interval of its own. -/
def withInterval (config : AlertConfig) (interval : String) : AlertConfig :=
  { config with interval := some (.text interval) }

/-- The alert with a history of its own. -/
def withHistorySize (config : AlertConfig) (size : String) : AlertConfig :=
  { config with historySize := some (.text size) }

/-- The alert with a time window of its own. -/
def withTimeWindow (config : AlertConfig) (window : String) : AlertConfig :=
  { config with timeWindow := some (.text window) }

end AlertConfig

/-- Settings of the whole watch. -/
structure Options where
  graphiteUrl : String
  publicGraphiteUrl : Option String
  authUsername : Option String
  authPassword : Option String
  interval : IntervalSetting
  timeWindow : Option IntervalSetting
  lag : IntervalSetting
  historySize : IntervalSetting
  repeatInterval : IntervalSetting
  method : Graphite.Reduction
  format : ValueFormat
  noData : Level
  loadingError : Level
  sendInitial : Bool
  requestTimeout : Double
  connectTimeout : Double
  gapValue : Double
  ignoreGaps : Bool
  debug : Bool
  logging : String
  messagePrefix : String
  pidfile : Option String
  criticalHandlers : List String
  warningHandlers : List String
  normalHandlers : List String
  noDataHandlers : List String
  http : Option HttpConfig
  alerts : List AlertConfig
  includes : List String
deriving DecidableEq

namespace Options

/-- The options of an empty configuration. -/
def default : Options where
  graphiteUrl := "http://localhost"
  publicGraphiteUrl := none
  authUsername := none
  authPassword := none
  interval := .text "10minute"
  timeWindow := none
  lag := .text "0second"
  historySize := .text "1day"
  repeatInterval := .text "2hour"
  method := .average
  format := .short
  noData := .critical
  loadingError := .critical
  sendInitial := false
  requestTimeout := 20
  connectTimeout := 20
  gapValue := 0
  ignoreGaps := false
  debug := false
  logging := "info"
  messagePrefix := "[BEACON]"
  pidfile := none
  criticalHandlers := ["log"]
  warningHandlers := ["log"]
  normalHandlers := ["log"]
  noDataHandlers := ["log"]
  http := none
  alerts := []
  includes := []

instance : Inhabited Options := ⟨default⟩

/-- The names of the handlers of a level. -/
def handlersFor (options : Options) : Level → List String
  | .critical => options.criticalHandlers
  | .warning => options.warningHandlers
  | .normal => options.normalHandlers
  | .noData => options.noDataHandlers

/-- The address of the render service in links. -/
def publicUrl (options : Options) : String := options.publicGraphiteUrl.getD options.graphiteUrl

end Options

end Vigil
