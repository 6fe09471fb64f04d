import Vigil.Proofs.Monitor.Run
import Vigil.Proofs.Reactor.Monitors
import Vigil.Proofs.Reactor.Session

/-!
# At work and at rest

When no stop is under way, a reactor is either at work or at rest with all its parts: the dispatcher
that has the queue, the repeater, and the timers of its monitors. Monitors that were replaced are
retired and have no timers in any case.

Starts and stops alone switch the dispatcher and the repeater. Timers follow them: a monitor that
takes the place of another one, by a load or by a reload, has a timer if the reactor runs.
-/

namespace Vigil

namespace Monitor

/-- A load that begins leaves the timer alone. -/
theorem isRunning_beginLoad (m : Monitor) : m.beginLoad.1.isRunning = m.isRunning := by
  cases busy : m.loading with
  | true => simp [beginLoad_of_loading busy, isRunning]
  | false => simp [beginLoad_of_free busy, isRunning]

/-- A load that ends leaves the timer alone. -/
theorem isRunning_finishLoad (m : Monitor) (result : FetchResult) :
    (m.finishLoad result).1.isRunning = m.isRunning := by
  rw [(finishLoad_eq m result).1]
  rfl

/-- A timer that goes on is still there. -/
theorem isRunning_advanceTimer (m : Monitor) : m.advanceTimer.isRunning = m.isRunning := by
  simp [advanceTimer, isRunning]

end Monitor

namespace Reactor

/-- What starts and stops switch: whether the reactor runs, whether there is a repeater, and, where
there is a dispatcher, whether it is to end. -/
structure Switches where
  running : Bool
  repeater : Bool
  dispatcher : Option Bool
deriving DecidableEq

/-- The switches of a reactor. -/
def switches (reactor : Reactor) : Switches :=
  ⟨reactor.running, reactor.repeater.isSome, reactor.dispatcher.map (·.stopping)⟩

/-- An occasion that may switch parts of a reactor. -/
def Occasion.isSwitch : Occasion → Bool
  | .start _ | .requestStop | .endStop => true
  | _ => false

/-- All monitors of a table have timers, or none of them has. -/
def Timed (monitors : Table AlertKey Monitor) (on : Bool) : Prop :=
  ∀ m ∈ monitors.values, m.isRunning = on

variable {reactor : Reactor} {now : Moment} {on : Bool}

/-- A reload leaves the switches alone. -/
theorem switches_reinit (reactor : Reactor) (now : Moment) (options : Options) :
    (reactor.reinit now options).1.switches = reactor.switches := by
  have same := engine_reinit reactor now options
  simp only [engine, Engine.mk.injEq] at same
  obtain ⟨-, dispatcher, repeater, running⟩ := same
  simp [switches, dispatcher, repeater, running]

/-- So does the dispatcher that takes a notification. -/
theorem switches_dispatch (reactor : Reactor) (now : Nat) :
    (reactor.dispatch now).1.switches = reactor.switches := by
  unfold dispatch
  split
  · rename_i busy _
    simp [switches, beginDelivery, busy]
  · rfl

/-- So does the dispatcher that ends a delivery. -/
theorem switches_finishDispatch (reactor : Reactor) :
    reactor.finishDispatch.1.switches = reactor.switches := by
  unfold finishDispatch
  split
  · rename_i busy
    simp [switches, finishDelivery, busy]
  · rfl

/-- So does a load that begins. -/
theorem switches_fire (reactor : Reactor) (key : AlertKey) :
    (reactor.fire key).1.switches = reactor.switches := by
  unfold fire
  split <;> rfl

/-- So does a load that ends. -/
theorem switches_finishLoad (reactor : Reactor) (key : AlertKey) (result : FetchResult) :
    (reactor.finishLoad key result).1.switches = reactor.switches := by
  unfold finishLoad
  split <;> rfl

/-- Only starts and stops touch the switches. -/
theorem Scene.switches_take (scene : Scene) {occasion : Occasion}
    (other : occasion.isSwitch = false) :
    (scene.take occasion).reactor.switches = scene.reactor.switches := by
  cases occasion with
  | start now => cases other
  | requestStop => cases other
  | endStop => cases other
  | reinit now options => exact switches_reinit scene.reactor now options
  | repeatNow =>
    simp only [take]
    split
    · simp [become, repeatNow, resetAll, switches]
    · rfl
  | notified place =>
    simp only [take]
    split <;> rfl
  | dispatch now => exact switches_dispatch scene.reactor now
  | finishDispatch => exact switches_finishDispatch scene.reactor
  | fire key => exact switches_fire scene.reactor key
  | arrival key result =>
    simp only [take]
    split
    · exact switches_finishLoad scene.reactor key result
    · rfl
  | _ => rfl

/-- Monitors that were started have timers. -/
theorem timed_startMonitors (now : Moment) (monitors : Table AlertKey Monitor) :
    Timed (startMonitors now monitors) true := by
  simp [Timed, startMonitors]

/-- Monitors that were stopped have none. -/
theorem timed_stopMonitors (monitors : Table AlertKey Monitor) :
    Timed (stopMonitors monitors) false := by
  simp [Timed, stopMonitors]

/-- Timers stay when each monitor keeps its own. -/
theorem timed_map {monitors : Table AlertKey Monitor} {f : Monitor → Monitor}
    (keeps : ∀ m, (f m).isRunning = m.isRunning) (timed : Timed monitors on) :
    Timed (monitors.map f) on := by
  intro m among
  rw [Table.values_map] at among
  obtain ⟨old, member, rfl⟩ := List.mem_map.1 among
  rw [keeps, timed old member]

/-- Timers stay when a monitor takes the place of another one with a timer like the others. -/
theorem timed_settle {m : Monitor} (timed : Timed reactor.monitors on) (like : m.isRunning = on)
    (key : AlertKey) (effects : Effects) : Timed (reactor.settle key m effects).1.monitors on := by
  intro other among
  obtain ⟨entry, placed, rfl⟩ := List.mem_map.1 among
  obtain ⟨old, member, rfl⟩ := List.mem_map.1 placed
  by_cases here : old.1 = key
  · simpa [here] using like
  · simpa [here] using timed old.2 (List.mem_map_of_mem member)

/-- Timers stay when a load begins. -/
theorem timed_fire (timed : Timed reactor.monitors on) (key : AlertKey) :
    Timed (reactor.fire key).1.monitors on := by
  unfold fire
  split
  · exact timed
  · rename_i m found
    have before : m.isRunning = on := timed m (Table.mem_values_of_get? found)
    have like : m.advanceTimer.beginLoad.1.isRunning = on := by
      rw [Monitor.isRunning_beginLoad, Monitor.isRunning_advanceTimer, before]
    exact timed_settle timed like key _

/-- Timers stay when a load ends. -/
theorem timed_finishLoad (timed : Timed reactor.monitors on) (key : AlertKey)
    (result : FetchResult) : Timed (reactor.finishLoad key result).1.monitors on := by
  unfold finishLoad
  split
  · exact timed
  · rename_i m found
    have before : m.isRunning = on := timed m (Table.mem_values_of_get? found)
    have like : (m.finishLoad result).1.isRunning = on := by
      rw [Monitor.isRunning_finishLoad, before]
    exact timed_settle timed like key _

/-- When options are applied, the new monitors have timers if the reactor runs. -/
theorem timed_of_applied {options : Options} {count : Nat}
    (applied : (reactor.reinit now options).2.2 = .ok count) :
    Timed (reactor.reinit now options).1.monitors reactor.running := by
  intro m among
  rw [(reinit_of_applied applied).1] at among
  obtain ⟨key, found⟩ :=
    Table.exists_get?_of_mem_values (nodup_keys_adoptedMonitors reactor.running) among
  exact (fresh_of_adopted found).2.2.2

/-- Monitors are retired and have no timers once options were applied that replace them. -/
theorem former_of_applied {options : Options} {count : Nat}
    (applied : (reactor.reinit now options).2.2 = .ok count)
    (still : ∀ m ∈ reactor.former, m.retired = true ∧ m.isRunning = false) :
    ∀ m ∈ (reactor.reinit now options).1.former, m.retired = true ∧ m.isRunning = false := by
  intro m among
  rw [(reinit_of_applied applied).2.1] at among
  rcases List.mem_append.1 among with old | replaced
  · exact still m old
  · obtain ⟨before, -, rfl⟩ := List.mem_map.1 replaced
    exact ⟨rfl, rfl⟩

namespace Scene

variable {scene : Scene} {occasion : Occasion}

/-- Timers follow the reactor whatever happens but a start or a stop. -/
theorem timed_take (initialized : scene.reactor.initialized = true)
    (timed : Timed scene.reactor.monitors scene.reactor.running)
    (other : occasion.isSwitch = false) :
    Timed (scene.take occasion).reactor.monitors scene.reactor.running := by
  cases occasion with
  | start now => cases other
  | requestStop => cases other
  | endStop => cases other
  | reinit now options =>
    rcases reinit_of_initialized initialized now options with
      ⟨fault, -, same, -⟩ | ⟨period, limit, -, -, applied⟩
    · simpa [take, become, same] using timed
    · exact timed_of_applied applied
  | resetAll => exact timed_map (fun _ => rfl) timed
  | repeatNow =>
    simp only [take]
    split
    · exact timed_map (fun _ => rfl) timed
    · exact timed
  | notified place =>
    simp only [take]
    split <;> exact timed
  | dispatch now =>
    simp only [take, become, dispatch]
    split <;> exact timed
  | finishDispatch =>
    simp only [take, become, finishDispatch]
    split <;> exact timed
  | fire key => exact timed_fire timed key
  | arrival key result =>
    simp only [take]
    split
    · exact timed_finishLoad timed key result
    · exact timed
  | _ => exact timed

/-- Monitors that were replaced stay retired and without timers. -/
theorem former_take (initialized : scene.reactor.initialized = true)
    (still : ∀ m ∈ scene.reactor.former, m.retired = true ∧ m.isRunning = false)
    (occasion : Occasion) :
    ∀ m ∈ (scene.take occasion).reactor.former, m.retired = true ∧ m.isRunning = false := by
  cases other : occasion.isReload with
  | false =>
    have same : (scene.take occasion).reactor.former = scene.reactor.former :=
      congrArg Setup.former (setup_take scene other)
    rwa [same]
  | true =>
    cases occasion with
    | reinit now options =>
      rcases reinit_of_initialized initialized now options with
        ⟨fault, -, same, -⟩ | ⟨period, limit, -, -, applied⟩
      · simpa [take, become, same] using still
      · exact former_of_applied applied still
    | _ => cases other

end Scene

/-- How far a reactor is when calls are made one after the other. -/
inductive Phase where
  | rest
  | work
  /-- A stop is under way. -/
  | stop
deriving DecidableEq

/-- The switches of a phase. -/
def Phase.switches : Phase → Switches
  | rest => ⟨false, false, none⟩
  | work => ⟨true, true, some false⟩
  | stop => ⟨false, false, some true⟩

namespace Session

variable {session : Session} {phase : Phase}

/-- All parts of the reactor are in a phase, and its monitors have timers while it runs. -/
structure InPhase (session : Session) (phase : Phase) : Prop where
  stopping : session.stopping = decide (phase = .stop)
  switches : session.reactor.switches = phase.switches
  timers : Timed session.reactor.monitors session.reactor.running
  former : ∀ m ∈ session.reactor.former, m.retired = true ∧ m.isRunning = false
  initialized : session.reactor.initialized = true

/-- A reactor runs in the phase of work alone. -/
theorem running_of_inPhase (fits : session.InPhase phase) :
    session.reactor.running = decide (phase = .work) := by
  have same : session.reactor.running = phase.switches.running :=
    congrArg Switches.running fits.switches
  cases phase <;> exact same

/-- A stop is under way in its phase alone. -/
theorem phase_of_stopping (fits : session.InPhase phase) (stopping : session.stopping = true) :
    phase = .stop := by
  have same := fits.stopping
  rw [stopping] at same
  exact of_decide_eq_true same.symm

/-- A dispatcher that is to end is there in the phase of a stop alone. -/
theorem phase_of_ending (fits : session.InPhase phase)
    (ending : session.reactor.dispatcher.any (fun d => d.stopping && d.delivery.isNone) = true) :
    phase = .stop := by
  obtain ⟨d, present, waits⟩ := (Option.any_eq_true _ _).1 ending
  have stopping : d.stopping = true := (Bool.and_eq_true_iff.1 waits).1
  have same : session.reactor.dispatcher.map (·.stopping) = phase.switches.dispatcher :=
    congrArg Switches.dispatcher fits.switches
  rw [present, Option.map_some, stopping] at same
  cases phase with
  | stop => rfl
  | rest => simp [Phase.switches] at same
  | work => simp [Phase.switches] at same

/-- So is a reactor that is drained. -/
theorem phase_of_isDrained (fits : session.InPhase phase)
    (drained : session.reactor.isDrained = true) : phase = .stop :=
  phase_of_ending fits (Bool.and_eq_true_iff.1 drained).2

/-- Whatever happens but a start or a stop, the phase stays. -/
theorem inPhase_take_of_not_switch (fits : session.InPhase phase) {occasion : Occasion}
    (other : occasion.isSwitch = false) :
    InPhase ⟨session.scene.take occasion, session.stopsAfter occasion⟩ phase := by
  have same := Scene.switches_take session.scene other
  have running : (session.scene.take occasion).reactor.running = session.reactor.running :=
    congrArg Switches.running same
  refine ⟨?_, same.trans fits.switches, ?_, ?_, ?_⟩
  · rw [← fits.stopping]
    cases occasion with
    | requestStop => cases other
    | endStop => cases other
    | _ => rfl
  · change Timed (session.scene.take occasion).reactor.monitors
      (session.scene.take occasion).reactor.running
    rw [running]
    exact Scene.timed_take fits.initialized fits.timers other
  · exact Scene.former_take fits.initialized fits.former occasion
  · exact Scene.initialized_take fits.initialized occasion

/-- A start begins the work, or leaves everything as it is. -/
theorem inPhase_take_start (fits : session.InPhase phase) (idle : session.stopping = false)
    (now : Moment) : ∃ next, (session.take (.start now)).InPhase next := by
  cases running : session.reactor.running with
  | true =>
    exact ⟨phase, by rwa [take_start_of_unchanged idle (start_of_running running _ now)]⟩
  | false =>
    cases wrote : session.reactor.writePidfile session.scene.host with
    | error fault =>
      exact ⟨phase, by rwa [take_start_of_unchanged idle (start_of_unwritten running wrote now)]⟩
    | ok written =>
      refine ⟨.work, ?_⟩
      simp only [take_of_idle idle, Scene.take, start_of_written running wrote, stopsAfter]
      have resting : session.reactor.switches.dispatcher = none := by
        have working := running_of_inPhase fits
        have stopping := fits.stopping
        rw [fits.switches]
        cases phase with
        | rest => rfl
        | work => simp [running] at working
        | stop => simp [idle] at stopping
      have alone : session.reactor.dispatcher = none := by simpa [switches] using resting
      refine ⟨by simp [idle], ?_, timed_startMonitors now _, fits.former, fits.initialized⟩
      simp [switches, launch, alone, Dispatcher.idle, Phase.switches]

/-- A request to stop ends the work, or leaves everything as it is. -/
theorem inPhase_take_requestStop (fits : session.InPhase phase) (idle : session.stopping = false) :
    ∃ next, (session.take .requestStop).InPhase next := by
  cases running : session.reactor.running with
  | false => exact ⟨phase, by rwa [take_requestStop_of_resting idle running]⟩
  | true =>
    rw [take_of_idle idle]
    have dispatcher : session.reactor.dispatcher.map (·.stopping) = some false := by
      have working := running_of_inPhase fits
      have same := congrArg Switches.dispatcher fits.switches
      cases phase with
      | work => exact same
      | rest => simp [running] at working
      | stop => simp [running] at working
    obtain ⟨d, present, -⟩ := Option.map_eq_some_iff.1 dispatcher
    refine ⟨.stop, by simp [stopsAfter, running], ?_, ?_, ?_, ?_⟩
    all_goals simp only [Scene.take, Scene.become, requestStop_of_running running]
    · simp [switches, present, Phase.switches]
    · exact timed_stopMonitors _
    · exact fits.former
    · exact fits.initialized

/-- A stop that ends brings the reactor to rest, and does not end before its time. -/
theorem inPhase_take_endStop (fits : session.InPhase phase) :
    ∃ next, (session.take .endStop).InPhase next := by
  rw [take_of_not_call session rfl]
  cases drained : session.reactor.isDrained with
  | false => exact ⟨phase, by simpa [Scene.take, stopsAfter, drained] using fits⟩
  | true =>
    obtain rfl := phase_of_isDrained fits drained
    refine ⟨.rest, by simp [stopsAfter, drained], ?_, ?_, ?_, ?_⟩
    all_goals simp only [Scene.take, drained, if_true, endDispatcher]
    · have running := running_of_inPhase fits
      have repeater := congrArg Switches.repeater fits.switches
      simp only [switches, Phase.switches] at repeater
      simp [switches, running, repeater, Phase.switches]
    · exact fits.timers
    · exact fits.former
    · exact fits.initialized

/-- Whatever happens, all parts of the reactor are in a phase together. -/
theorem inPhase_take (session : Session) (occasion : Occasion)
    (fits : ∃ phase, session.InPhase phase) : ∃ phase, (session.take occasion).InPhase phase := by
  obtain ⟨phase, fits⟩ := fits
  by_cases waits : (session.stopping && occasion.isCall) = true
  · exact ⟨phase, by rwa [take, if_pos waits]⟩
  · cases switch : occasion.isSwitch with
    | false =>
      refine ⟨phase, ?_⟩
      rw [take, if_neg waits]
      exact inPhase_take_of_not_switch fits switch
    | true =>
      cases occasion with
      | start now => exact inPhase_take_start fits (by simpa [Occasion.isCall] using waits) now
      | requestStop => exact inPhase_take_requestStop fits (by simpa [Occasion.isCall] using waits)
      | endStop => exact inPhase_take_endStop fits
      | _ => cases switch

/-- A reactor that was just made is at rest. -/
theorem inPhase_opening {options : Options} {sources : SourceRegistry} {registry : HandlerRegistry}
    {now : Moment} {reactor : Reactor} (made : (make options sources registry now).2 = .ok reactor)
    (host : Host) : (opening reactor host).InPhase .rest := by
  obtain ⟨period, count, -, applied, rfl⟩ := make_eq_ok_iff.1 made
  have unswitched := switches_reinit (blank options sources registry period) now options
  have stopped : ((blank options sources registry period).reinit now options).1.running = false :=
    congrArg Switches.running unswitched
  refine ⟨rfl, unswitched, ?_, ?_, initialized_of_reinit_ok applied⟩
  · have timed := timed_of_applied applied
    change Timed _ ((blank options sources registry period).reinit now options).1.running
    rwa [stopped]
  · exact former_of_applied applied (by simp [blank])

end Session

/-- A reactor with all parts at work: a dispatcher that is not to end has the queue, and there are
a repeater and a timer for each monitor. -/
structure AtWork (reactor : Reactor) : Prop where
  dispatcher : ∃ delivery, reactor.dispatcher = some ⟨delivery, false⟩
  repeater : reactor.repeater.isSome = true
  timers : ∀ m ∈ reactor.monitors.values, m.isRunning = true

/-- A reactor with all parts at rest: no dispatcher has the queue, and there are no repeater and no
timers. -/
structure AtRest (reactor : Reactor) : Prop where
  dispatcher : reactor.dispatcher = none
  repeater : reactor.repeater = none
  timers : ∀ m ∈ reactor.monitors.values, m.isRunning = false

namespace Session

variable {session : Session}

/-- In the phase of work, all parts are at work. -/
theorem atWork_of_inPhase (fits : session.InPhase .work) : AtWork session.reactor := by
  have running : session.reactor.running = true := running_of_inPhase fits
  have repeater : session.reactor.repeater.isSome = true :=
    congrArg Switches.repeater fits.switches
  have dispatcher : session.reactor.dispatcher.map (·.stopping) = some false :=
    congrArg Switches.dispatcher fits.switches
  obtain ⟨d, present, going⟩ := Option.map_eq_some_iff.1 dispatcher
  refine ⟨⟨d.delivery, ?_⟩, repeater, ?_⟩
  · rw [present, ← going]
  · rw [← running]
    exact fits.timers

/-- In the phase of rest, all parts are at rest. -/
theorem atRest_of_inPhase (fits : session.InPhase .rest) : AtRest session.reactor := by
  have running : session.reactor.running = false := running_of_inPhase fits
  have repeater : session.reactor.repeater.isSome = false :=
    congrArg Switches.repeater fits.switches
  have dispatcher : session.reactor.dispatcher.map (·.stopping) = none :=
    congrArg Switches.dispatcher fits.switches
  refine ⟨by simpa using dispatcher, by simpa using repeater, ?_⟩
  rw [← running]
  exact fits.timers

/-- Whatever was called and happened since a reactor was made: monitors that were replaced are
retired and have no timers, and when no stop is under way, the reactor runs exactly if there are a
dispatcher that has the queue and a repeater. All its parts are at work then, and a start does
nothing; otherwise all of them are at rest, and a request to stop does nothing. A start that fails
does nothing either. -/
theorem lifeCycle_of_run {options : Options} {sources : SourceRegistry}
    {registry : HandlerRegistry} {now : Moment} {reactor : Reactor}
    (made : (make options sources registry now).2 = .ok reactor) (host : Host)
    (occasions : List Occasion) :
    let session := (opening reactor host).run occasions
    let current := session.scene.reactor
    (∀ m ∈ current.former, m.retired = true ∧ m.isRunning = false) ∧
      (session.stopping = false →
        (current.running = true ↔
            current.dispatcher.isSome = true ∧ current.repeater.isSome = true) ∧
          (current.running = true → AtWork current ∧ ∀ later,
            current.start session.scene.host later = (current, session.scene.host, [], .ok ()) ∧
              session.take (.start later) = session) ∧
          (current.running = false → AtRest current ∧ current.requestStop = (current, []) ∧
            session.take .requestStop = session) ∧
          ∀ later fault, (current.start session.scene.host later).2.2.2 = .error fault →
            AtRest current ∧ session.take (.start later) = session) := by
  intro session current
  obtain ⟨phase, fits⟩ : ∃ phase, session.InPhase phase :=
    run_invariant (fun session => ∃ phase, session.InPhase phase) inPhase_take occasions
      ⟨.rest, inPhase_opening made host⟩
  refine ⟨fits.former, fun idle => ?_⟩
  have ended : phase ≠ .stop := by simpa [idle] using fits.stopping
  have running : current.running = decide (phase = .work) := running_of_inPhase fits
  cases phase with
  | stop => exact absurd rfl ended
  | work =>
    have parts : AtWork current := atWork_of_inPhase fits
    have runs : current.running = true := running
    obtain ⟨delivery, present⟩ := parts.dispatcher
    have unchanged (later : Moment) : current.start session.scene.host later =
        (current, session.scene.host, [], .ok ()) := start_of_running runs _ later
    refine ⟨?_, fun _ => ⟨parts, fun later => ⟨unchanged later, ?_⟩⟩, ?_, ?_⟩
    · simp [runs, present, parts.repeater]
    · exact take_start_of_unchanged idle (unchanged later)
    · simp [runs]
    · intro later fault failed
      rw [unchanged later] at failed
      cases failed
  | rest =>
    have parts : AtRest current := atRest_of_inPhase fits
    have rests : current.running = false := running
    have unasked : current.requestStop = (current, []) := requestStop_of_resting rests
    have unstopped : session.take .requestStop = session := take_requestStop_of_resting idle rests
    refine ⟨?_, ?_, fun _ => ⟨parts, unasked, unstopped⟩, ?_⟩
    · simp [rests, parts.dispatcher]
    · simp [rests]
    · intro later fault failed
      cases wrote : current.writePidfile session.scene.host with
      | ok written =>
        rw [start_of_written rests wrote] at failed
        cases failed
      | error reason =>
        exact ⟨parts, take_start_of_unchanged idle (start_of_unwritten rests wrote later)⟩

/-- A start, a reload, a stop, and another start, for examples. -/
def restart : List Occasion :=
  [.start ⟨0, 0⟩, .reinit ⟨10, 10⟩ cpuOptions, .requestStop, .endStop, .start ⟨20, 20⟩]

/-- A reactor that was reloaded, stopped and started again is at work with all its parts. -/
theorem lifeCycle_of_restart :
    (make cpuOptions .standard .standard ⟨0, 0⟩).2 = .ok cpuReactor ∧
      ((opening cpuReactor bareHost).run restart).stopping = false ∧
      ((opening cpuReactor bareHost).run restart).scene.reactor.running = true ∧
      AtWork ((opening cpuReactor bareHost).run restart).scene.reactor := by
  have idle : ((opening cpuReactor bareHost).run restart).stopping = false := by decide +kernel
  have running : ((opening cpuReactor bareHost).run restart).scene.reactor.running = true := by
    decide +kernel
  have parts := (lifeCycle_of_run make_cpuReactor bareHost restart).2 idle
  exact ⟨make_cpuReactor, idle, running, (parts.2.1 running).1⟩

end Session

end Reactor

end Vigil
