import Vigil.Proofs.Config.Codec

/-!
# Settings that are written and read again

Options and alerts that are encoded and decoded again are the same, field by field and alert by
alert: what is unset stays unset, an interval stays a number or a text, and choices keep their
names. The same holds for what was decoded from any value, in whatever form it was written there.
-/

namespace Vigil

/-- The fixed fields are in the order of their names. -/
def HttpConfig.Valid (http : HttpConfig) : Prop := http.params.Pairwise fun a b => a.1 < b.1

/-- All numbers of an alert are finite. -/
structure AlertConfig.Valid (config : AlertConfig) : Prop where
  interval : ∀ setting ∈ config.interval, setting.Valid
  timeWindow : ∀ setting ∈ config.timeWindow, setting.Valid
  lag : ∀ setting ∈ config.lag, setting.Valid
  historySize : ∀ setting ∈ config.historySize, setting.Valid
  requestTimeout : ∀ x ∈ config.requestTimeout, x.isFinite = true
  connectTimeout : ∀ x ∈ config.connectTimeout, x.isFinite = true
  gapValue : ∀ x ∈ config.gapValue, x.isFinite = true

/-- All numbers of the options and of their alerts are finite, and the fixed fields of the HTTP
handler are in the order of their names. -/
structure Options.Valid (o : Options) : Prop where
  interval : o.interval.Valid
  timeWindow : ∀ setting ∈ o.timeWindow, setting.Valid
  lag : o.lag.Valid
  historySize : o.historySize.Valid
  repeatInterval : o.repeatInterval.Valid
  requestTimeout : o.requestTimeout.isFinite = true
  connectTimeout : o.connectTimeout.isFinite = true
  gapValue : o.gapValue.isFinite = true
  http : ∀ http ∈ o.http, http.Valid
  alerts : ∀ config ∈ o.alerts, config.Valid

namespace Config

open Json (Fields)

/-! ## The settings of the HTTP handler -/

/-- The encoded fields of the HTTP handler, in their places. -/
def httpFields (http : HttpConfig) : Fields :=
  [("url", .text http.url), ("method", .text http.method), ("params", ofTextFields http.params)]

/-- The encoding of the settings of the HTTP handler is exact. -/
theorem httpConfig_exact : Definite HttpConfig.Valid ofHttpConfig httpConfig := by
  refine ⟨⟨fun http valid => ?lawful, fun value http valid decoded => ?admits⟩, fun _ _ => nofun⟩
  case lawful =>
    have distinct : ((httpFields http).map (·.1)).Nodup := by
      simp only [httpFields, List.map_cons, List.map_nil]
      decide
    have taken : Members.of? 3 (ofHttpConfig http) =
        some (.named (Fields.ofList (httpFields http))) := rfl
    have member (place : Nat) (name : String) {value : Json}
        (written : (httpFields http)[place]? = some (name, value)) :=
      Members.get?_named distinct written
    dsimp only [httpConfig, Option.bind_eq_bind, Option.pure_def]
    rw [taken, Option.bind_some,
      text_exact.bind_required trivial (member 0 "url" rfl),
      text_exact.bind_withDefault trivial (member 1 "method" rfl),
      textFields_exact.bind_withDefault valid (member 2 "params" rfl)]
  case admits =>
    dsimp only [httpConfig, Option.bind_eq_bind, Option.pure_def] at decoded
    obtain ⟨members, taken, decoded⟩ := Option.bind_eq_some_iff.1 decoded
    iterate 2 obtain ⟨_, -, decoded⟩ := Option.bind_eq_some_iff.1 decoded
    obtain ⟨_, params, decoded⟩ := Option.bind_eq_some_iff.1 decoded
    cases decoded
    have known := Members.valid_of? valid taken
    exact textFields_exact.of_withDefault known List.Pairwise.nil params

/-! ## Alerts -/

/-- The encoded fields of an alert, in their places. -/
def alertFields (config : AlertConfig) : Fields :=
  [("name", .text config.name),
    ("query", .text config.query),
    ("source", .text config.source),
    ("rules", ofTexts config.rules),
    ("interval", ofNullable ofIntervalSetting config.interval),
    ("time_window", ofNullable ofIntervalSetting config.timeWindow),
    ("until", ofNullable ofIntervalSetting config.lag),
    ("history_size", ofNullable ofIntervalSetting config.historySize),
    ("no_data", ofNullable ofLevel config.noData),
    ("loading_error", ofNullable ofLevel config.loadingError),
    ("send_initial", ofNullable .bool config.sendInitial),
    ("method", ofNullable .text config.method),
    ("format", ofNullable ofFormat config.format),
    ("request_timeout", ofNullable ofNumber config.requestTimeout),
    ("connect_timeout", ofNullable ofNumber config.connectTimeout),
    ("default_nan_value", ofNullable ofNumber config.gapValue),
    ("ignore_nan", ofNullable .bool config.ignoreGaps),
    ("validate_cert", ofNullable .bool config.validateCert)]

/-- No key of an alert comes twice. -/
theorem distinct_alertFields (config : AlertConfig) : ((alertFields config).map (·.1)).Nodup := by
  simp only [alertFields, List.map_cons, List.map_nil]
  decide

/-- The encoding of alerts is exact. -/
theorem alertConfig_exact : Definite AlertConfig.Valid ofAlertConfig alertConfig := by
  refine ⟨⟨fun config valid => ?lawful, fun value config valid decoded => ?admits⟩,
    fun _ _ => nofun⟩
  case lawful =>
    have taken : Members.of? 18 (ofAlertConfig config) =
        some (.named (Fields.ofList (alertFields config))) := rfl
    have member (place : Nat) (name : String) {value : Json}
        (written : (alertFields config)[place]? = some (name, value)) :=
      Members.get?_named (distinct_alertFields config) written
    have any {α : Type} {found : Option α} : ∀ x ∈ found, True := fun _ _ => trivial
    dsimp only [alertConfig, Option.bind_eq_bind, Option.pure_def]
    rw [taken, Option.bind_some,
      text_exact.bind_withDefault trivial (member 0 "name" rfl),
      text_exact.bind_withDefault trivial (member 1 "query" rfl),
      text_exact.bind_withDefault trivial (member 2 "source" rfl),
      text_exact.list.bind_withDefault (fun _ _ => trivial) (member 3 "rules" rfl),
      intervalSetting_exact.bind_optional valid.interval (member 4 "interval" rfl),
      intervalSetting_exact.bind_optional valid.timeWindow (member 5 "time_window" rfl),
      intervalSetting_exact.bind_optional valid.lag (member 6 "until" rfl),
      intervalSetting_exact.bind_optional valid.historySize (member 7 "history_size" rfl),
      level_exact.bind_optional any (member 8 "no_data" rfl),
      level_exact.bind_optional any (member 9 "loading_error" rfl),
      bool_exact.bind_optional any (member 10 "send_initial" rfl),
      text_exact.bind_optional any (member 11 "method" rfl),
      format_exact.bind_optional any (member 12 "format" rfl),
      number_exact.bind_optional valid.requestTimeout (member 13 "request_timeout" rfl),
      number_exact.bind_optional valid.connectTimeout (member 14 "connect_timeout" rfl),
      number_exact.bind_optional valid.gapValue (member 15 "default_nan_value" rfl),
      bool_exact.bind_optional any (member 16 "ignore_nan" rfl),
      bool_exact.bind_optional any (member 17 "validate_cert" rfl)]
  case admits =>
    dsimp only [alertConfig, Option.bind_eq_bind, Option.pure_def] at decoded
    obtain ⟨members, taken, decoded⟩ := Option.bind_eq_some_iff.1 decoded
    iterate 4 obtain ⟨_, -, decoded⟩ := Option.bind_eq_some_iff.1 decoded
    obtain ⟨_, interval, decoded⟩ := Option.bind_eq_some_iff.1 decoded
    obtain ⟨_, timeWindow, decoded⟩ := Option.bind_eq_some_iff.1 decoded
    obtain ⟨_, lag, decoded⟩ := Option.bind_eq_some_iff.1 decoded
    obtain ⟨_, historySize, decoded⟩ := Option.bind_eq_some_iff.1 decoded
    iterate 5 obtain ⟨_, -, decoded⟩ := Option.bind_eq_some_iff.1 decoded
    obtain ⟨_, requestTimeout, decoded⟩ := Option.bind_eq_some_iff.1 decoded
    obtain ⟨_, connectTimeout, decoded⟩ := Option.bind_eq_some_iff.1 decoded
    obtain ⟨_, gapValue, decoded⟩ := Option.bind_eq_some_iff.1 decoded
    iterate 2 obtain ⟨_, -, decoded⟩ := Option.bind_eq_some_iff.1 decoded
    cases decoded
    have known := Members.valid_of? valid taken
    exact {
      interval := intervalSetting_exact.of_optional known interval
      timeWindow := intervalSetting_exact.of_optional known timeWindow
      lag := intervalSetting_exact.of_optional known lag
      historySize := intervalSetting_exact.of_optional known historySize
      requestTimeout := number_exact.of_optional known requestTimeout
      connectTimeout := number_exact.of_optional known connectTimeout
      gapValue := number_exact.of_optional known gapValue }

/-! ## Options -/

/-- The encoded fields of the options, in their places. -/
def optionFields (o : Options) : Fields :=
  [("graphite_url", .text o.graphiteUrl),
    ("public_graphite_url", ofNullable .text o.publicGraphiteUrl),
    ("auth_username", ofNullable .text o.authUsername),
    ("auth_password", ofNullable .text o.authPassword),
    ("interval", ofIntervalSetting o.interval),
    ("time_window", ofNullable ofIntervalSetting o.timeWindow),
    ("until", ofIntervalSetting o.lag),
    ("history_size", ofIntervalSetting o.historySize),
    ("repeat_interval", ofIntervalSetting o.repeatInterval),
    ("method", .text o.method.name),
    ("format", ofFormat o.format),
    ("no_data", ofLevel o.noData),
    ("loading_error", ofLevel o.loadingError),
    ("send_initial", .bool o.sendInitial),
    ("request_timeout", ofNumber o.requestTimeout),
    ("connect_timeout", ofNumber o.connectTimeout),
    ("default_nan_value", ofNumber o.gapValue),
    ("ignore_nan", .bool o.ignoreGaps),
    ("debug", .bool o.debug),
    ("logging", .text o.logging),
    ("prefix", .text o.messagePrefix),
    ("pidfile", ofNullable .text o.pidfile),
    ("critical_handlers", ofTexts o.criticalHandlers),
    ("warning_handlers", ofTexts o.warningHandlers),
    ("normal_handlers", ofTexts o.normalHandlers),
    ("no_data_handlers", ofTexts o.noDataHandlers),
    ("http", ofNullable ofHttpConfig o.http),
    ("alerts", .list (o.alerts.map ofAlertConfig)),
    ("include", ofTexts o.includes)]

/-- No key of the options comes twice. -/
theorem distinct_optionFields (o : Options) : ((optionFields o).map (·.1)).Nodup := by
  simp only [optionFields, List.map_cons, List.map_nil]
  decide

/-- The default options are valid. -/
theorem valid_default : Options.default.Valid := by
  have timeout : (20 : Double).isFinite = true := Double.isFinite_ofNat (by decide)
  have gap : (0 : Double).isFinite = true := Double.isFinite_ofNat (by decide)
  exact {
    interval := trivial
    timeWindow := fun _ => nofun
    lag := trivial
    historySize := trivial
    repeatInterval := trivial
    requestTimeout := timeout
    connectTimeout := timeout
    gapValue := gap
    http := fun _ => nofun
    alerts := fun _ => nofun }

/-- The encoding of options is exact. -/
theorem options_exact : Exact Options.Valid ofOptions options := by
  refine ⟨fun o valid => ?lawful, fun value o valid decoded => ?admits⟩
  case lawful =>
    have taken : Members.of? 29 (ofOptions o) =
        some (.named (Fields.ofList (optionFields o))) := rfl
    have member (place : Nat) (name : String) {value : Json}
        (written : (optionFields o)[place]? = some (name, value)) :=
      Members.get?_named (distinct_optionFields o) written
    have texts : Exact (fun _ => True) ofTexts (list text) :=
      ⟨fun xs _ => text_exact.list.lawful xs fun _ _ => trivial, fun _ _ _ _ => trivial⟩
    have unset : Exact (fun _ => True) (ofNullable .text) (nullable text) :=
      ⟨fun x _ => text_exact.nullable.lawful x fun _ _ => trivial, fun _ _ _ _ => trivial⟩
    dsimp only [options, Option.bind_eq_bind, Option.pure_def]
    rw [taken, Option.bind_some,
      text_exact.bind_withDefault trivial (member 0 "graphite_url" rfl),
      unset.bind_withDefault trivial (member 1 "public_graphite_url" rfl),
      unset.bind_withDefault trivial (member 2 "auth_username" rfl),
      unset.bind_withDefault trivial (member 3 "auth_password" rfl),
      intervalSetting_exact.bind_withDefault valid.interval (member 4 "interval" rfl),
      intervalSetting_exact.nullable.bind_withDefault valid.timeWindow (member 5 "time_window" rfl),
      intervalSetting_exact.bind_withDefault valid.lag (member 6 "until" rfl),
      intervalSetting_exact.bind_withDefault valid.historySize (member 7 "history_size" rfl),
      intervalSetting_exact.bind_withDefault valid.repeatInterval (member 8 "repeat_interval" rfl),
      reduction_exact.bind_withDefault trivial (member 9 "method" rfl),
      format_exact.bind_withDefault trivial (member 10 "format" rfl),
      level_exact.bind_withDefault trivial (member 11 "no_data" rfl),
      level_exact.bind_withDefault trivial (member 12 "loading_error" rfl),
      bool_exact.bind_withDefault trivial (member 13 "send_initial" rfl),
      number_exact.bind_withDefault valid.requestTimeout (member 14 "request_timeout" rfl),
      number_exact.bind_withDefault valid.connectTimeout (member 15 "connect_timeout" rfl),
      number_exact.bind_withDefault valid.gapValue (member 16 "default_nan_value" rfl),
      bool_exact.bind_withDefault trivial (member 17 "ignore_nan" rfl),
      bool_exact.bind_withDefault trivial (member 18 "debug" rfl),
      text_exact.bind_withDefault trivial (member 19 "logging" rfl),
      text_exact.bind_withDefault trivial (member 20 "prefix" rfl),
      unset.bind_withDefault trivial (member 21 "pidfile" rfl),
      texts.bind_withDefault trivial (member 22 "critical_handlers" rfl),
      texts.bind_withDefault trivial (member 23 "warning_handlers" rfl),
      texts.bind_withDefault trivial (member 24 "normal_handlers" rfl),
      texts.bind_withDefault trivial (member 25 "no_data_handlers" rfl),
      httpConfig_exact.nullable.bind_withDefault valid.http (member 26 "http" rfl),
      alertConfig_exact.list.bind_withDefault valid.alerts (member 27 "alerts" rfl),
      texts.bind_withDefault trivial (member 28 "include" rfl)]
  case admits =>
    dsimp only [options, Option.bind_eq_bind, Option.pure_def] at decoded
    obtain ⟨members, taken, decoded⟩ := Option.bind_eq_some_iff.1 decoded
    iterate 4 obtain ⟨_, -, decoded⟩ := Option.bind_eq_some_iff.1 decoded
    obtain ⟨_, interval, decoded⟩ := Option.bind_eq_some_iff.1 decoded
    obtain ⟨_, timeWindow, decoded⟩ := Option.bind_eq_some_iff.1 decoded
    obtain ⟨_, lag, decoded⟩ := Option.bind_eq_some_iff.1 decoded
    obtain ⟨_, historySize, decoded⟩ := Option.bind_eq_some_iff.1 decoded
    obtain ⟨_, repeatInterval, decoded⟩ := Option.bind_eq_some_iff.1 decoded
    iterate 5 obtain ⟨_, -, decoded⟩ := Option.bind_eq_some_iff.1 decoded
    obtain ⟨_, requestTimeout, decoded⟩ := Option.bind_eq_some_iff.1 decoded
    obtain ⟨_, connectTimeout, decoded⟩ := Option.bind_eq_some_iff.1 decoded
    obtain ⟨_, gapValue, decoded⟩ := Option.bind_eq_some_iff.1 decoded
    iterate 9 obtain ⟨_, -, decoded⟩ := Option.bind_eq_some_iff.1 decoded
    obtain ⟨_, http, decoded⟩ := Option.bind_eq_some_iff.1 decoded
    obtain ⟨_, alerts, decoded⟩ := Option.bind_eq_some_iff.1 decoded
    obtain ⟨_, -, decoded⟩ := Option.bind_eq_some_iff.1 decoded
    cases decoded
    have known := Members.valid_of? valid taken
    have d := valid_default
    exact {
      interval := intervalSetting_exact.of_withDefault known d.interval interval
      timeWindow := intervalSetting_exact.nullable.of_withDefault known d.timeWindow timeWindow
      lag := intervalSetting_exact.of_withDefault known d.lag lag
      historySize := intervalSetting_exact.of_withDefault known d.historySize historySize
      repeatInterval := intervalSetting_exact.of_withDefault known d.repeatInterval repeatInterval
      requestTimeout := number_exact.of_withDefault known d.requestTimeout requestTimeout
      connectTimeout := number_exact.of_withDefault known d.connectTimeout connectTimeout
      gapValue := number_exact.of_withDefault known d.gapValue gapValue
      http := httpConfig_exact.nullable.of_withDefault known d.http http
      alerts := alertConfig_exact.list.of_withDefault known d.alerts alerts }

/-! ## Round trips -/

/-- Options and alerts are decoded from their encodings, and so are those that were decoded from any
valid value. -/
theorem decode_encode :
    (∀ o : Options, o.Valid → options (ofOptions o) = some o) ∧
      (∀ value o, value.Valid → options value = some o → options (ofOptions o) = some o) ∧
      (∀ config : AlertConfig, config.Valid → alertConfig (ofAlertConfig config) = some config) ∧
      ∀ value config, value.Valid → alertConfig value = some config →
        alertConfig (ofAlertConfig config) = some config := by
  refine ⟨options_exact.lawful, ?_, alertConfig_exact.lawful, ?_⟩
  · intro value o valid decoded
    exact options_exact.lawful o (options_exact.admits value o valid decoded)
  · intro value config valid decoded
    exact alertConfig_exact.lawful config (alertConfig_exact.admits value config valid decoded)

/-- An alert with settings of its own. -/
def sampleAlert : AlertConfig :=
  { AlertConfig.make "cpu" "*.cpu" ["critical: > 90%"] with
    interval := some (.seconds 30)
    historySize := some (.text "1hour")
    noData := some .warning
    requestTimeout := some 5 }

/-- Options with a handler over HTTP and an alert. -/
def sampleOptions : Options :=
  { Options.default with
    interval := .seconds 60
    format := .bytes
    http := some ⟨"http://localhost/hook", "POST", [("room", "ops"), ("token", "t")]⟩
    alerts := [sampleAlert] }

/-- An object that gives the level of its alerts without data as the key of an object. -/
def sampleAlertValue : Json :=
  .object [("name", .text "cpu"), ("no_data", .object [("warning", .null)])]

/-- An object that leaves out most options and gives an interval as an integer. -/
def sampleValue : Json :=
  .object [("alerts", .list [sampleAlertValue]), ("interval", .number (.integer 60))]

/-- The alert is valid. -/
theorem valid_sampleAlert : sampleAlert.Valid := by
  have interval : IntervalSetting.Valid (.seconds 30) := Double.isFinite_ofNat (by decide)
  have timeout : (5 : Double).isFinite = true := Double.isFinite_ofNat (by decide)
  have given {α : Type} {P : α → Prop} {x : α} (known : P x) : ∀ y ∈ some x, P y := by
    rintro _ ⟨⟩
    exact known
  have unset {α : Type} {P : α → Prop} : ∀ y ∈ (none : Option α), P y := nofun
  exact ⟨given interval, unset, unset, given trivial, given timeout, unset, unset⟩

/-- The options are valid. -/
theorem valid_sampleOptions : sampleOptions.Valid := by
  have finite : (60 : Double).isFinite = true := Double.isFinite_ofNat (by decide)
  exact { valid_default with
    interval := finite
    http := by rintro _ ⟨⟩; exact List.pairwise_pair.2 (by decide)
    alerts := List.forall_mem_singleton.2 valid_sampleAlert }

/-- The value of the alert is valid. -/
theorem valid_sampleAlertValue : sampleAlertValue.Valid := by
  have level : (Json.object [("warning", .null)]).Valid :=
    .object (List.pairwise_singleton _ _) (List.forall_mem_singleton.2 .null)
  refine .object (List.pairwise_pair.2 (by decide)) ?_
  exact List.forall_mem_cons.2 ⟨.text _, List.forall_mem_singleton.2 level⟩

/-- The value of the options is valid. -/
theorem valid_sampleValue : sampleValue.Valid := by
  have alerts : (Json.list [sampleAlertValue]).Valid :=
    .list (List.forall_mem_singleton.2 valid_sampleAlertValue)
  have interval : (Json.number (.integer 60)).Valid := .number ⟨by decide, by decide⟩
  refine .object (List.pairwise_pair.2 (by decide)) ?_
  exact List.forall_mem_cons.2 ⟨alerts, List.forall_mem_singleton.2 interval⟩

/-- Options and an alert with all kinds of settings, and values in forms that no encoding gives. -/
theorem decode_encode_samples :
    options (ofOptions sampleOptions) = some sampleOptions ∧
      (∃ o, options sampleValue = some o ∧ options (ofOptions o) = some o) ∧
      alertConfig (ofAlertConfig sampleAlert) = some sampleAlert ∧
      ∃ config, alertConfig sampleAlertValue = some config ∧
        alertConfig (ofAlertConfig config) = some config := by
  obtain ⟨optionsBack, optionsAgain, alertBack, alertAgain⟩ := decode_encode
  obtain ⟨o, read⟩ : ∃ o, options sampleValue = some o :=
    Option.isSome_iff_exists.1 (by decide +kernel)
  obtain ⟨config, readAlert⟩ : ∃ config, alertConfig sampleAlertValue = some config :=
    Option.isSome_iff_exists.1 (by decide +kernel)
  exact ⟨optionsBack sampleOptions valid_sampleOptions,
    ⟨o, read, optionsAgain sampleValue o valid_sampleValue read⟩,
    alertBack sampleAlert valid_sampleAlert,
    ⟨config, readAlert, alertAgain sampleAlertValue config valid_sampleAlertValue readAlert⟩⟩

end Config

end Vigil
