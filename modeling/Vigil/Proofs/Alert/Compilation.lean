import Vigil.Alert.Basic
import Vigil.Proofs.Traversal

/-!
# Compiled alerts

An alert is compiled in one pass over its settings. So a compiled alert is one that holds what each
setting in force was read as, and that is all there is to compiling: what follows about names, rules,
schedules and histories of compiled alerts follows from this account, and not from the order in which
the settings are read.
-/

namespace Vigil

namespace Alert

variable {now : Int} {name : String} {config : AlertConfig} {options : Options} {alert : Alert}

/-- Every setting in force was accepted, and an alert holds what it was read as. -/
structure Compiled (now : Int) (name : String) (config : AlertConfig) (options : Options)
    (alert : Alert) : Prop where
  named : alert.name = name
  source : alert.source = config.source
  query : alert.query = config.query
  queryGiven : (Text.trim config.query.toList).isEmpty = false
  rulesGiven : config.rules ≠ []
  rules : readRules config.rules = .ok alert.rules
  schedule : Schedule.ofSetting now (config.interval.getD options.interval) = .ok alert.schedule
  /-- Without a window of its own an alert looks back one interval. -/
  timeWindow : (config.timeWindow.or options.timeWindow).elim (.ok alert.interval) readInterval =
    .ok alert.timeWindow
  lag : readInterval (config.lag.getD options.lag) = .ok alert.lag
  historySize : ∃ kept, readInterval (config.historySize.getD options.historySize) = .ok kept ∧
    alert.historySize = History.capacityFor kept.millis alert.interval.millis
  connect : readLimit .connect (config.connectTimeout.getD options.connectTimeout) =
    .ok alert.timeouts.connect
  request : readLimit .request (config.requestTimeout.getD options.requestTimeout) =
    .ok alert.timeouts.request
  noData : alert.noData = config.noData.getD options.noData
  loadingError : alert.loadingError = config.loadingError.getD options.loadingError
  sendInitial : alert.sendInitial = config.sendInitial.getD options.sendInitial
  format : alert.format = config.format.getD options.format
  publicUrl : alert.publicUrl = options.publicUrl

/-- An alert is compiled for a name exactly when every setting was accepted. -/
theorem compileNamed_eq_ok_iff :
    compileNamed now name config options = .ok alert ↔ Compiled now name config options alert := by
  unfold compileNamed
  constructor
  · intro compiled
    simp only [bind, Except.bind, pure, Except.pure, throw, throwThe, MonadExceptOf.throw] at compiled
    repeat' split at compiled
    all_goals cases compiled
    all_goals
      constructor
      case queryGiven => exact Bool.eq_false_iff.2 ‹_›
      case rulesGiven => simpa using ‹¬config.rules.isEmpty = true›
      case schedule => exact mapError_eq_ok_iff.1 ‹_›
      case historySize => exact ⟨_, ‹_›, rfl⟩
      case timeWindow =>
        rw [‹config.timeWindow.or options.timeWindow = _›]
        first | assumption | rfl
      all_goals first | assumption | rfl
  · intro compiled
    obtain ⟨kept, sized, room⟩ := compiled.historySize
    have asked : ¬(Text.trim config.query.toList).isEmpty = true := by
      rw [compiled.queryGiven]
      exact Bool.false_ne_true
    have ruled : ¬config.rules.isEmpty = true := by
      rw [List.isEmpty_iff]
      exact compiled.rulesGiven
    have window := compiled.timeWindow
    rw [if_neg asked, if_neg ruled, compiled.rules, compiled.schedule, compiled.lag, sized,
      compiled.connect, compiled.request, ← compiled.named, ← compiled.source, ← compiled.query,
      ← compiled.noData, ← compiled.loadingError, ← compiled.sendInitial, ← compiled.format,
      ← compiled.publicUrl]
    cases own : config.timeWindow.or options.timeWindow with
    | none =>
      rw [own, Option.elim_none, Except.ok.injEq] at window
      change Except.ok _ = _
      rw [← interval, ← room, window]
    | some setting =>
      rw [own, Option.elim_some] at window
      dsimp only
      rw [window]
      change Except.ok _ = _
      rw [← interval, ← room]

/-- An alert is compiled exactly when it has a name and is compiled for it. -/
theorem compile_eq_ok_iff :
    compile now config options = .ok alert ↔
      let name := String.ofList (Text.trim config.name.toList)
      name.isEmpty = false ∧ Compiled now name config options alert := by
  unfold compile
  dsimp only
  split
  · rename_i nameless
    simp [nameless]
  · rename_i named
    rw [mapError_eq_ok_iff, compileNamed_eq_ok_iff]
    simp [named]

/-- The interval in force has the schedule of the alert, and the history size in force is an
interval that decides the room of its histories. -/
theorem schedule_of_compile (compiled : compile now config options = .ok alert) :
    Schedule.ofSetting now (config.interval.getD options.interval) = .ok alert.schedule ∧
      ∃ kept, (config.historySize.getD options.historySize).interval = .ok kept ∧
        alert.historySize = History.capacityFor kept.millis alert.interval.millis := by
  obtain ⟨-, settings⟩ := compile_eq_ok_iff.1 compiled
  obtain ⟨kept, read, room⟩ := settings.historySize
  exact ⟨settings.schedule, kept, mapError_eq_ok_iff.1 read, room⟩

end Alert

end Vigil
