import Mathlib.Data.List.Nodup
import Vigil.Proofs.Alert.Compilation
import Vigil.Proofs.Reactor.Run

/-!
# The monitors of options

A reload replaces all monitors. Of the alerts with one name and one source the first that can be
used gets a monitor: an alert that is refused does not stand in the way of a later one, and a later
one does not replace an earlier one. Each monitor begins without levels and histories, and has a
timer exactly when the reactor runs. What the reactor had before decides nothing about them.
-/

namespace Vigil

/-- What tells the alert of a configuration apart: its name without blanks around it, and its
source. -/
def AlertConfig.key (config : AlertConfig) : AlertKey :=
  (String.ofList (Text.trim config.name.toList), config.source)

namespace Alert

variable {wall : Int} {config : AlertConfig} {options : Options} {alert : Alert}

/-- An alert has the key of its configuration. -/
theorem key_of_compile (compiled : compile wall config options = .ok alert) :
    alert.key = config.key := by
  obtain ⟨-, settings⟩ := compile_eq_ok_iff.1 compiled
  exact Prod.ext settings.named settings.source

end Alert

namespace Reactor

variable {sources : SourceRegistry} {now : Moment} {options : Options} {config : AlertConfig}
  {m : Monitor} {key : AlertKey}

/-- The alert of a configuration can be used, and has this monitor: the alert compiles, and its
source can be made. -/
def Yields (sources : SourceRegistry) (now : Moment) (options : Options) (config : AlertConfig)
    (m : Monitor) : Prop :=
  ∃ alert source, Alert.compile now.wall config options = .ok alert ∧
    sources.build alert config options = .ok source ∧ m = Monitor.make alert source options.debug

/-- The first of some configurations with this key whose alert can be used has this monitor. -/
def FirstYields (sources : SourceRegistry) (now : Moment) (options : Options)
    (configs : List AlertConfig) (key : AlertKey) (m : Monitor) : Prop :=
  ∃ before config after, configs = before ++ config :: after ∧ config.key = key ∧
    Yields sources now options config m ∧
    ∀ earlier ∈ before, earlier.key = key → ∀ other, ¬ Yields sources now options earlier other

/-- What a reload leaves when it is applied. -/
structure Renewed (before : Reactor) (now : Moment) (options : Options) (count : Nat)
    (after : Reactor) : Prop where
  /-- Every monitor from before is retired and has no timer any more. Nothing else about it
  changes. -/
  former : after.former = before.former ++
    before.monitors.values.map fun m => { m with retired := true, timer := none }
  /-- Whether the reactor runs stays as it is. -/
  running : after.running = before.running
  /-- No key has two monitors. -/
  distinct : after.monitors.keys.Nodup
  /-- The number of the monitors is reported. -/
  count : count = after.monitors.keys.length
  /-- The monitors are those of the first alerts that can be used, with a key each. They are started
  if the reactor runs. -/
  monitors : ∀ key m, after.monitors.get? key = some m ↔
    ∃ made, FirstYields before.sources now options options.alerts key made ∧
      m = if before.running then made.start now else made
  /-- They begin without levels and histories, and no load is under way. -/
  fresh : ∀ key m, after.monitors.get? key = some m →
    m.state = AlertState.initial m.alert.historySize ∧ m.loading = false ∧ m.retired = false
  /-- They have timers exactly if the reactor runs. -/
  timers : ∀ key m, after.monitors.get? key = some m → m.isRunning = before.running

/-- The monitors that are made are those of the alerts that can be used. -/
theorem makeMonitor_eq_ok_iff :
    makeMonitor sources now options config = .ok m ↔ Yields sources now options config m := by
  unfold makeMonitor Yields
  cases compiled : Alert.compile now.wall config options with
  | error fault => simp
  | ok alert =>
    cases built : sources.build alert config options with
    | error fault => simp [built, Except.map]
    | ok source => simp [built, Except.map, eq_comm]

/-- A monitor has the key of its configuration. -/
theorem key_of_yields (yields : Yields sources now options config m) :
    m.alert.key = config.key := by
  obtain ⟨alert, source, compiled, -, rfl⟩ := yields
  exact Alert.key_of_compile compiled

/-- A configuration has one monitor at most. -/
theorem yields_unique {other : Monitor} (yields : Yields sources now options config m)
    (again : Yields sources now options config other) : m = other :=
  Except.ok.inj ((makeMonitor_eq_ok_iff.2 yields).symm.trans (makeMonitor_eq_ok_iff.2 again))

/-- Without configurations there is no first one. -/
theorem not_firstYields_nil : ¬ FirstYields sources now options [] key m := by
  rintro ⟨before, first, after, split, -⟩
  simp at split

/-- The first configuration comes first if it has the key and its alert can be used; otherwise the
first of the others does. -/
theorem firstYields_cons (config : AlertConfig) (rest : List AlertConfig) :
    FirstYields sources now options (config :: rest) key m ↔
      config.key = key ∧ Yields sources now options config m ∨
        (config.key = key → ∀ other, ¬ Yields sources now options config other) ∧
          FirstYields sources now options rest key m := by
  constructor
  · rintro ⟨before, first, after, parts, same, yields, unusable⟩
    cases before with
    | nil =>
      obtain ⟨rfl, rfl⟩ := List.cons.inj parts
      exact .inl ⟨same, yields⟩
    | cons head before =>
      obtain ⟨rfl, rfl⟩ := List.cons.inj parts
      obtain ⟨here, later⟩ := List.forall_mem_cons.1 unusable
      exact .inr ⟨here, before, first, after, rfl, same, yields, later⟩
  · rintro (⟨same, yields⟩ | ⟨here, before, first, after, rfl, same, yields, later⟩)
    · exact ⟨[], config, rest, rfl, same, yields, by simp⟩
    · exact ⟨config :: before, first, after, rfl, same, yields,
        List.forall_mem_cons.2 ⟨here, later⟩⟩

/-- A monitor is added unless its key has one. -/
theorem addMonitor_ok (table : Table AlertKey Monitor) (m : Monitor) :
    (addMonitor table (.ok m)).1 =
      if table.contains m.alert.key then table else table.set m.alert.key m := by
  simp only [addMonitor]
  split <;> rfl

/-- Adding the monitors of configurations keeps those that are there, and gives each other key the
first monitor that it can have. -/
theorem get?_addMonitors (table : Table AlertKey Monitor) (configs : List AlertConfig) :
    (addMonitors table (configs.map (makeMonitor sources now options))).1.get? key = some m ↔
      table.get? key = some m ∨
        table.get? key = none ∧ FirstYields sources now options configs key m := by
  induction configs generalizing table with
  | nil => simp [addMonitors, not_firstYields_nil]
  | cons config rest ih =>
    simp only [List.map_cons, addMonitors, ih, firstYields_cons]
    cases made : makeMonitor sources now options config with
    | error fault =>
      have unusable : ∀ other, ¬ Yields sources now options config other := fun other yields => by
        simp [makeMonitor_eq_ok_iff.2 yields] at made
      simp [addMonitor, unusable]
    | ok first =>
      have yields : Yields sources now options config first := makeMonitor_eq_ok_iff.1 made
      have itsKey : first.alert.key = config.key := key_of_yields yields
      have only : Yields sources now options config m ↔ first = m :=
        ⟨yields_unique yields, fun same => same ▸ yields⟩
      have usable : ¬ ∀ other, ¬ Yields sources now options config other :=
        fun none => none first yields
      by_cases same : config.key = key
      · subst same
        cases known : table.get? config.key with
        | none => simp [addMonitor_ok, Table.contains, Table.get?_set, itsKey, known, only, usable]
        | some old => simp [addMonitor_ok, Table.contains, itsKey, known]
      · have kept : (addMonitor table (.ok first)).1.get? key = table.get? key := by
          rw [addMonitor_ok]
          split
          · rfl
          · rw [Table.get?_set, itsKey, if_neg (Ne.symm same)]
        rw [kept]
        simp [same]

/-- Adding a monitor gives no key twice. -/
theorem nodup_keys_addMonitor {table : Table AlertKey Monitor} (distinct : table.keys.Nodup)
    (made : Except InvalidAlert Monitor) : (addMonitor table made).1.keys.Nodup := by
  cases made with
  | error fault => exact distinct
  | ok m =>
    rw [addMonitor_ok]
    split
    · exact distinct
    · rename_i absent
      have fresh : m.alert.key ∉ table.keys := by rwa [Table.contains_iff] at absent
      rw [Table.keys_set table fresh, ← List.concat_eq_append]
      exact distinct.concat fresh

/-- Nor does adding several. -/
theorem nodup_keys_addMonitors {table : Table AlertKey Monitor} (distinct : table.keys.Nodup)
    (made : List (Except InvalidAlert Monitor)) : (addMonitors table made).1.keys.Nodup := by
  induction made generalizing table with
  | nil => exact distinct
  | cons first rest ih => exact ih (nodup_keys_addMonitor distinct first)

variable {reactor : Reactor} {count : Nat}

/-- The monitors of a reactor to which options were applied. -/
def adoptedMonitors (sources : SourceRegistry) (now : Moment) (options : Options)
    (running : Bool) : Table AlertKey Monitor :=
  let made := (makeMonitors sources now options).1
  if running then startMonitors now made else made

/-- A reload that is applied retires the monitors from before and takes their timers, and it takes
the monitors of its options. -/
theorem reinit_of_applied (applied : (reactor.reinit now options).2.2 = .ok count) :
    let next := (reactor.reinit now options).1
    next.monitors = adoptedMonitors reactor.sources now options reactor.running ∧
      next.former = (reactor.former ++
        reactor.monitors.values.map fun m => { m with retired := true, timer := none }) ∧
      next.running = reactor.running ∧ count = next.monitors.keys.length := by
  intro next
  obtain ⟨period, limit, -, adopted, counted⟩ := adopted_of_applied applied
  have renewed : next = (reactor.replaced now options limit).adopt now options period := adopted
  have monitors : next.monitors = adoptedMonitors reactor.sources now options reactor.running := by
    rw [renewed]
    rfl
  have kept : next.former = reactor.former ++ (stopMonitors reactor.monitors).values := by
    rw [renewed]
    rfl
  have former : next.former = reactor.former ++
      reactor.monitors.values.map fun m => { m with retired := true, timer := none } := by
    rw [kept, stopMonitors, Table.values_map]
    rfl
  have running : next.running = reactor.running := by
    rw [renewed]
    rfl
  have number : count = (makeMonitors reactor.sources now options).1.keys.length := by
    rw [Table.keys, List.length_map]
    exact counted
  refine ⟨monitors, former, running, ?_⟩
  rw [monitors, number, adoptedMonitors]
  split <;> simp [startMonitors]

/-- No key has two monitors in a reactor to which options were applied. -/
theorem nodup_keys_adoptedMonitors (running : Bool) :
    (adoptedMonitors sources now options running).keys.Nodup := by
  have none : (Table.empty : Table AlertKey Monitor).keys.Nodup := List.nodup_nil
  have distinct : (makeMonitors sources now options).1.keys.Nodup := nodup_keys_addMonitors none _
  cases running with
  | false => exact distinct
  | true => simpa [adoptedMonitors, startMonitors] using distinct

/-- The monitors of a reactor to which options were applied are those of the first alerts that can
be used. -/
theorem get?_adoptedMonitors (running : Bool) :
    (adoptedMonitors sources now options running).get? key = some m ↔
      ∃ made, FirstYields sources now options options.alerts key made ∧
        m = if running then made.start now else made := by
  have selected (made : Monitor) : (makeMonitors sources now options).1.get? key = some made ↔
      FirstYields sources now options options.alerts key made := by
    simp [makeMonitors, get?_addMonitors]
  cases running with
  | false => simp [adoptedMonitors, selected]
  | true =>
    simp [adoptedMonitors, startMonitors, Table.get?_map, Option.map_eq_some_iff, selected,
      @eq_comm _ m]

/-- A monitor of a reactor to which options were applied has seen nothing yet, and its timer runs
if the reactor does. -/
theorem fresh_of_adopted {running : Bool}
    (found : (adoptedMonitors sources now options running).get? key = some m) :
    m.state = AlertState.initial m.alert.historySize ∧ m.loading = false ∧ m.retired = false ∧
      m.isRunning = running := by
  obtain ⟨made, ⟨_, _, _, -, -, ⟨alert, source, -, -, rfl⟩, -⟩, rfl⟩ :=
    (get?_adoptedMonitors running).1 found
  cases running <;> exact ⟨rfl, rfl, rfl, rfl⟩

/-- A reload that is applied stops every monitor from before. Of the alerts with one name and one
source, it makes a new monitor for the first that can be used, and for no other one. The monitors
are the same whatever the reactor had before. -/
theorem monitors_of_reload (applied : (reactor.reinit now options).2.2 = .ok count) :
    Renewed reactor now options count (reactor.reinit now options).1 ∧
      ∀ (other : Reactor) (number : Nat), other.sources = reactor.sources →
        other.running = reactor.running → (other.reinit now options).2.2 = .ok number →
        number = count ∧
          (other.reinit now options).1.monitors = (reactor.reinit now options).1.monitors := by
  obtain ⟨monitors, former, running, number⟩ := reinit_of_applied applied
  constructor
  · refine ⟨former, running, ?_, number, ?_, ?_, ?_⟩
    · rw [monitors]
      exact nodup_keys_adoptedMonitors reactor.running
    · intro key m
      rw [monitors]
      exact get?_adoptedMonitors reactor.running
    · intro key m found
      rw [monitors] at found
      obtain ⟨state, loading, retired, -⟩ := fresh_of_adopted found
      exact ⟨state, loading, retired⟩
    · intro key m found
      rw [monitors] at found
      exact (fresh_of_adopted found).2.2.2
  · intro other otherNumber sameSources sameRunning otherApplied
    obtain ⟨otherMonitors, -, -, counted⟩ := reinit_of_applied otherApplied
    have same : (other.reinit now options).1.monitors = (reactor.reinit now options).1.monitors := by
      rw [otherMonitors, monitors, sameSources, sameRunning]
    exact ⟨by rw [counted, number, same], same⟩

/-- A reactor with one alert that was just made, for examples. -/
def cpuReactor : Reactor :=
  ((blank cpuOptions .standard .standard (.ofWholeSeconds 7200)).reinit ⟨0, 0⟩ cpuOptions).1

/-- That reactor is made of its options. -/
theorem make_cpuReactor : (make cpuOptions .standard .standard ⟨0, 0⟩).2 = .ok cpuReactor :=
  make_eq_ok_iff.2 ⟨.ofWholeSeconds 7200, 1, by decide +kernel, by decide +kernel, rfl⟩

/-- Options whose first alert is refused, whose second one has blanks around its name, whose third
one repeats the second, and whose last one names an unknown source, for examples. -/
def mixedOptions : Options :=
  let cpu := AlertConfig.make "cpu" "*.cpu" ["critical: > 100"]
  { Options.default with
    alerts := [{ cpu with rules := ["nonsense"] }, { cpu with name := " cpu " }.withInterval "1minute",
      cpu, cpu.withSource "url", cpu.withSource "carrier-pigeon"] }

/-- A running reactor takes the alerts of such options for which nothing stands in the way. -/
theorem monitors_of_mixed_reload :
    let working := cpuReactor.launch ⟨0, 0⟩
    let reload := working.reinit ⟨10, 10⟩ mixedOptions
    reload.2.2 = .ok 2 ∧ Renewed working ⟨10, 10⟩ mixedOptions 2 reload.1 ∧
      reload.1.monitors.entries.map (fun entry => (entry.1, entry.2.alert.text)) =
        [(("cpu", "graphite"), "cpu (1minute)"), (("cpu", "url"), "cpu (10minute)")] := by
  have applied : ((cpuReactor.launch ⟨0, 0⟩).reinit ⟨10, 10⟩ mixedOptions).2.2 = .ok 2 := by
    decide +kernel
  exact ⟨applied, (monitors_of_reload applied).1, by decide +kernel⟩

end Reactor

end Vigil
