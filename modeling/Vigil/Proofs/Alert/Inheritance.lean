import Mathlib.Control.Monad.Basic
import Vigil.Alert.Basic

/-!
# Inherited settings

An alert takes the settings that it leaves out from the options, and each of them counts as if the
alert had set it itself: what is compiled depends on the settings in force and not on where they
come from. So writing the inherited settings into an alert changes nothing, and options say nothing
about an alert that has them all but for the base of its links.
-/

namespace Vigil

namespace AlertConfig

/-- The alert with the settings of the options written into it where it has none of its own. A time
window is written where the options have one. -/
def inherit (config : AlertConfig) (options : Options) : AlertConfig :=
  { config with
    interval := config.interval.or (some options.interval)
    timeWindow := config.timeWindow.or options.timeWindow
    lag := config.lag.or (some options.lag)
    historySize := config.historySize.or (some options.historySize)
    noData := config.noData.or (some options.noData)
    loadingError := config.loadingError.or (some options.loadingError)
    sendInitial := config.sendInitial.or (some options.sendInitial)
    format := config.format.or (some options.format)
    requestTimeout := config.requestTimeout.or (some options.requestTimeout)
    connectTimeout := config.connectTimeout.or (some options.connectTimeout) }

/-- The alert has every setting that it could take from the options. -/
structure Settled (config : AlertConfig) : Prop where
  interval : config.interval.isSome = true
  timeWindow : config.timeWindow.isSome = true
  lag : config.lag.isSome = true
  historySize : config.historySize.isSome = true
  noData : config.noData.isSome = true
  loadingError : config.loadingError.isSome = true
  sendInitial : config.sendInitial.isSome = true
  format : config.format.isSome = true
  requestTimeout : config.requestTimeout.isSome = true
  connectTimeout : config.connectTimeout.isSome = true

/-- The settings in force for an alert. Without a time window, its schedule decides. -/
structure Effective where
  interval : IntervalSetting
  timeWindow : Option IntervalSetting
  lag : IntervalSetting
  historySize : IntervalSetting
  noData : Level
  loadingError : Level
  sendInitial : Bool
  format : ValueFormat
  requestTimeout : Double
  connectTimeout : Double

/-- The settings in force: those of the alert, and those of the options for the rest. -/
def effective (config : AlertConfig) (options : Options) : Effective where
  interval := config.interval.getD options.interval
  timeWindow := config.timeWindow.or options.timeWindow
  lag := config.lag.getD options.lag
  historySize := config.historySize.getD options.historySize
  noData := config.noData.getD options.noData
  loadingError := config.loadingError.getD options.loadingError
  sendInitial := config.sendInitial.getD options.sendInitial
  format := config.format.getD options.format
  requestTimeout := config.requestTimeout.getD options.requestTimeout
  connectTimeout := config.connectTimeout.getD options.connectTimeout

/-- Settings that are written into an alert are the ones that were in force. -/
theorem effective_inherit (config : AlertConfig) (options : Options) :
    (config.inherit options).effective options = config.effective options := by
  have window : (config.timeWindow.or options.timeWindow).or options.timeWindow =
      config.timeWindow.or options.timeWindow := by
    rw [Option.or_assoc, Option.or_self]
  simp [effective, inherit, window]

/-- A setting of the alert itself is in force whatever the options say. -/
theorem getD_of_isSome {α : Type} {setting : Option α} (set : setting.isSome = true) (a b : α) :
    setting.getD a = setting.getD b := by
  cases setting with
  | none => cases set
  | some value => rfl

/-- The settings in force for an alert that has them all do not depend on the options. -/
theorem effective_of_settled {config : AlertConfig} (settled : config.Settled)
    (options other : Options) : config.effective other = config.effective options := by
  have window : config.timeWindow.or other.timeWindow =
      config.timeWindow.or options.timeWindow := by
    rw [Option.or_of_isSome settled.timeWindow, Option.or_of_isSome settled.timeWindow]
  simp only [effective, Effective.mk.injEq]
  exact ⟨getD_of_isSome settled.interval _ _, window, getD_of_isSome settled.lag _ _,
    getD_of_isSome settled.historySize _ _, getD_of_isSome settled.noData _ _,
    getD_of_isSome settled.loadingError _ _, getD_of_isSome settled.sendInitial _ _,
    getD_of_isSome settled.format _ _, getD_of_isSome settled.requestTimeout _ _,
    getD_of_isSome settled.connectTimeout _ _⟩

end AlertConfig

namespace Alert

/-- Alerts with the same name, query, source and rules, the same settings in force and the same base
of links are compiled alike, and refused for the same cause. -/
theorem compile_congr {config config' : AlertConfig} {options options' : Options} (now : Int)
    (name : config.name = config'.name) (query : config.query = config'.query)
    (source : config.source = config'.source) (rules : config.rules = config'.rules)
    (settings : config.effective options = config'.effective options')
    (links : options.publicUrl = options'.publicUrl) :
    compile now config options = compile now config' options' := by
  simp only [AlertConfig.effective, AlertConfig.Effective.mk.injEq] at settings
  obtain ⟨interval, timeWindow, lag, historySize, noData, loadingError, sendInitial, format,
    request, connect⟩ := settings
  simp only [compile, compileNamed, name, query, source, rules, interval, timeWindow, lag,
    historySize, noData, loadingError, sendInitial, format, request, connect, links]

/-- Writing the inherited settings into an alert changes nothing: it is compiled to the same alert,
or refused for the same cause. And an alert that has all these settings depends on the options only
through the base of its links. -/
theorem compile_inherit (now : Int) (config : AlertConfig) (options : Options) :
    compile now (config.inherit options) options = compile now config options ∧
      (config.Settled → ∀ other : Options, other.publicUrl = options.publicUrl →
        compile now config other = compile now config options) := by
  constructor
  · exact compile_congr now rfl rfl rfl rfl (config.effective_inherit options) rfl
  · intro settled other links
    exact compile_congr now rfl rfl rfl rfl (AlertConfig.effective_of_settled settled options other)
      links

/-- Options with a time window and a level of their own, for examples. -/
def windowedOptions : Options :=
  { Options.default with timeWindow := some (.text "1hour"), noData := .warning }

/-- An alert at cron firings into which those settings are written keeps them under other
options. -/
theorem compile_inherit_of_windowed :
    let config := ((AlertConfig.make "disk" "*.disk" ["warning: > 80"]).withInterval
      "*/5 * * * *").inherit windowedOptions
    config.Settled ∧ Options.default.publicUrl = windowedOptions.publicUrl ∧
      compile 0 config .default = compile 0 config windowedOptions ∧
      (compile 0 config .default).map (fun alert =>
        (alert.text, alert.timeWindow.text, alert.noData, alert.historySize)) =
          .ok ("disk (*/5 * * * *)", "1hour", .warning, 288) := by
  intro config
  have settled : config.Settled := by constructor <;> rfl
  have links : Options.default.publicUrl = windowedOptions.publicUrl := rfl
  exact ⟨settled, links, (compile_inherit 0 config windowedOptions).2 settled .default links,
    by decide +kernel⟩

end Alert

end Vigil
