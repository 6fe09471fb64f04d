import Mathlib.Control.Monad.Basic
import Vigil.Proofs.Reactor.Reload
import Vigil.Reactor.Running

/-!
# Runs of a reactor

Options are reloaded, the reactor is started and stopped, and in between its alerts are polled,
levels are brought back to normal, and notifications are queued and delivered. What takes time is
told apart into its beginning and its end, so that anything may happen between them. A run is any
order of such occasions.

Only a reload touches the setup of a reactor, and it does so as a whole or not at all.
-/

namespace Vigil.Reactor

/-- What may happen to a reactor. -/
inductive Occasion where
  | reinit (now : Moment) (options : Options)
  | start (now : Moment)
  /-- A stop begins. -/
  | requestStop
  /-- A stop ends with its dispatcher. -/
  | endStop
  /-- Levels are brought back to normal by a call. -/
  | resetAll
  /-- The repeater is due. -/
  | repeatNow
  /-- A notification is delivered past the queue. -/
  | notify (now : Nat) (event : Event)
  /-- One of the deliveries past the queue ends, chosen by its place among them. -/
  | notified (place : Nat)
  /-- Notifications are queued. -/
  | emit (events : List Event)
  /-- The dispatcher takes a notification. -/
  | dispatch (now : Nat)
  /-- The dispatcher ends its delivery. -/
  | finishDispatch
  /-- The timer of an alert is due. -/
  | fire (key : AlertKey)
  /-- A load of an alert gets the result of its request. -/
  | arrival (key : AlertKey) (result : FetchResult)

/-- An occasion on which options are reloaded. -/
def Occasion.isReload : Occasion → Bool
  | .reinit _ _ => true
  | _ => false

/-- A reactor with its surroundings, and the deliveries past its queue that have not ended. -/
structure Scene where
  reactor : Reactor
  host : Host
  deliveries : List Delivery

namespace Scene

/-- A reactor that was just made. -/
def opening (reactor : Reactor) (host : Host) : Scene := ⟨reactor, host, []⟩

/-- The scene with its reactor changed. -/
def become (scene : Scene) (reactor : Reactor) : Scene := { scene with reactor := reactor }

/-- Takes an occasion. A stop does not end before everything is delivered, the repeater is not due
where there is none, and nothing arrives for an alert without a load under way. -/
def take (scene : Scene) : Occasion → Scene
  | .reinit now options => scene.become (scene.reactor.reinit now options).1
  | .start now =>
      let (reactor, host, _) := scene.reactor.start scene.host now
      { scene with reactor := reactor, host := host }
  | .requestStop => scene.become scene.reactor.requestStop.1
  | .endStop =>
      if scene.reactor.isDrained then
        { scene with
          reactor := scene.reactor.endDispatcher.1
          host := (scene.reactor.removePidfile scene.host).1 }
      else scene
  | .resetAll => scene.become scene.reactor.resetAll.1
  | .repeatNow =>
      if scene.reactor.repeater.isSome then scene.become scene.reactor.repeatNow.1 else scene
  | .notify now event =>
      let (reactor, delivery, _) := scene.reactor.beginDelivery now event
      { scene with reactor := reactor, deliveries := scene.deliveries ++ [delivery] }
  | .notified place =>
      match scene.deliveries[place]? with
      | none => scene
      | some delivery =>
          { scene with
            reactor := (scene.reactor.finishDelivery delivery).1
            deliveries := scene.deliveries.eraseIdx place }
  | .emit events => scene.become (scene.reactor.emit events)
  | .dispatch now => scene.become (scene.reactor.dispatch now).1
  | .finishDispatch => scene.become scene.reactor.finishDispatch.1
  | .fire key => scene.become (scene.reactor.fire key).1
  | .arrival key result =>
      if (scene.reactor.monitor? key).any (·.loading) then
        scene.become (scene.reactor.finishLoad key result).1
      else scene

/-- Takes occasions in their order. -/
def run (scene : Scene) (occasions : List Occasion) : Scene := occasions.foldl take scene

end Scene

/-- What options decide about a reactor, apart from its monitors. -/
structure Setup where
  options : Options
  sources : SourceRegistry
  registry : HandlerRegistry
  handlers : HandlerTable
  former : List Monitor
  repeatPeriod : Duration
  initialized : Bool

/-- The setup of a reactor. -/
def setup (reactor : Reactor) : Setup where
  options := reactor.options
  sources := reactor.sources
  registry := reactor.registry
  handlers := reactor.handlers
  former := reactor.former
  repeatPeriod := reactor.repeatPeriod
  initialized := reactor.initialized

@[simp] theorem setup_start (reactor : Reactor) (host : Host) (now : Moment) :
    (reactor.start host now).1.setup = reactor.setup := by
  unfold start
  split
  · rfl
  · split <;> rfl

@[simp] theorem setup_requestStop (reactor : Reactor) :
    reactor.requestStop.1.setup = reactor.setup := by
  unfold requestStop
  split <;> rfl

@[simp] theorem setup_dispatch (reactor : Reactor) (now : Nat) :
    (reactor.dispatch now).1.setup = reactor.setup := by
  unfold dispatch
  split <;> rfl

@[simp] theorem setup_finishDispatch (reactor : Reactor) :
    reactor.finishDispatch.1.setup = reactor.setup := by
  unfold finishDispatch
  split <;> rfl

@[simp] theorem setup_fire (reactor : Reactor) (key : AlertKey) :
    (reactor.fire key).1.setup = reactor.setup := by
  unfold fire
  split <;> rfl

@[simp] theorem setup_finishLoad (reactor : Reactor) (key : AlertKey) (result : FetchResult) :
    (reactor.finishLoad key result).1.setup = reactor.setup := by
  unfold finishLoad
  split <;> rfl

namespace Scene

variable {scene : Scene}

/-- Only a reload touches the setup. -/
theorem setup_take (scene : Scene) {occasion : Occasion} (other : occasion.isReload = false) :
    (scene.take occasion).reactor.setup = scene.reactor.setup := by
  cases occasion with
  | reinit now options => cases other
  | start now => exact setup_start scene.reactor scene.host now
  | requestStop => exact setup_requestStop scene.reactor
  | endStop =>
    simp only [take]
    split <;> rfl
  | resetAll => rfl
  | repeatNow =>
    simp only [take]
    split <;> rfl
  | notify now event => rfl
  | notified place =>
    simp only [take]
    split <;> rfl
  | emit events => rfl
  | dispatch now => exact setup_dispatch scene.reactor now
  | finishDispatch => exact setup_finishDispatch scene.reactor
  | fire key => exact setup_fire scene.reactor key
  | arrival key result =>
    simp only [take]
    split
    · exact setup_finishLoad scene.reactor key result
    · rfl

/-- What every occasion keeps is kept by every run. -/
theorem run_invariant (kept : Scene → Prop)
    (keeps : ∀ scene occasion, kept scene → kept (scene.take occasion))
    (occasions : List Occasion) (start : kept scene) : kept (scene.run occasions) :=
  List.foldlRecOn occasions take start fun scene before occasion _ => keeps scene occasion before

/-- Options that were applied once stay applied, whatever happens. -/
theorem initialized_take (initialized : scene.reactor.initialized = true) (occasion : Occasion) :
    (scene.take occasion).reactor.initialized = true := by
  cases other : occasion.isReload with
  | false =>
    exact (congrArg Setup.initialized (setup_take scene other)).trans initialized
  | true =>
    cases occasion with
    | reinit now options => exact initialized_reinit initialized now options
    | _ => cases other

/-- They stay applied in every run. -/
theorem initialized_run (initialized : scene.reactor.initialized = true)
    (occasions : List Occasion) : (scene.run occasions).reactor.initialized = true :=
  run_invariant (fun scene => scene.reactor.initialized = true)
    (fun _ occasion before => initialized_take before occasion) occasions initialized

/-- Reloads are atomic, whatever happened to the reactor since it was made: one that is refused
leaves the whole reactor as it was, and none is refused for want of alerts. -/
theorem reload_atomic {options : Options} {sources : SourceRegistry} {registry : HandlerRegistry}
    {now : Moment} {reactor : Reactor} (made : (make options sources registry now).2 = .ok reactor)
    (host : Host) (occasions : List Occasion) (later : Moment) (next : Options) :
    let current := ((opening reactor host).run occasions).reactor
    let reload := current.reinit later next
    (∀ fault, reload.2.2 = .error fault → reload.1 = current) ∧
      reload.2.2 ≠ .error .noAlerts := by
  intro current reload
  have first : (opening reactor host).reactor.initialized = true := initialized_of_make made
  have initialized : current.initialized = true := initialized_run first occasions
  rcases reinit_of_initialized initialized later next with
    ⟨reason, refused, same, failed⟩ | ⟨period, limit, -, -, applied⟩
  · refine ⟨fun _ _ => same, fun barren => ?_⟩
    have reported : reason = .noAlerts := Except.error.inj (failed.symm.trans barren)
    exact readPeriods_ne_noAlerts next (reported ▸ refused)
  · refine ⟨fun fault failed => ?_, fun failed => ?_⟩ <;>
      exact absurd (applied.symm.trans failed) (by simp)

end Scene

/-- Options with one alert, for examples. -/
def cpuOptions : Options :=
  { Options.default with alerts := [.make "cpu" "*.cpu" ["critical: > 100"]] }

/-- The same options with a repeat interval of no length. -/
def restlessOptions : Options := { cpuOptions with repeatInterval := .text "0second" }

/-- A host without files, for examples. -/
def bareHost : Host := ⟨⟨Table.empty, []⟩, [], 1⟩

/-- A repeat interval of no length is refused while the reactor stops, after it loaded an alert. -/
theorem Scene.reload_atomic_while_stopping :
    ∃ reactor, (make cpuOptions .standard .standard ⟨0, 0⟩).2 = .ok reactor ∧
      let current := ((opening reactor bareHost).run
        [.start ⟨0, 0⟩, .fire ("cpu", "graphite"),
          .arrival ("cpu", "graphite") (.ok ⟨200, "a,1,2,60|120\n"⟩), .requestStop]).reactor
      let reload := current.reinit ⟨10, 10⟩ restlessOptions
      reload.2.2 = .error .zeroRepeatInterval ∧ reload.1 = current := by
  have works : (make cpuOptions .standard .standard ⟨0, 0⟩).2.isOk = true := by decide +kernel
  have restless : readPeriods restlessOptions = .error .zeroRepeatInterval := by decide +kernel
  cases made : (make cpuOptions .standard .standard ⟨0, 0⟩).2 with
  | error fault =>
    rw [made] at works
    cases works
  | ok reactor =>
    refine ⟨reactor, rfl, (reinit_of_refused restless).2, ?_⟩
    exact (reload_atomic made bareHost _ ⟨10, 10⟩ restlessOptions).1 _
      (reinit_of_refused restless).2

end Vigil.Reactor
