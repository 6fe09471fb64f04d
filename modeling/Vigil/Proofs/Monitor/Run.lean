import Vigil.Alert.Monitor
import Vigil.Proofs.Alert.Run

/-!
# Runs of a monitor

A load makes its request when it is asked for, and the result of the request arrives at any
time later. In between other loads may be asked for, and the monitor may be given samples,
reset, started and stopped. A run is any order of such occasions, so what holds of every run
holds of every order. What each occasion keeps is proved here once.

The state of the alert sees of an occasion only a few calls. A run of a monitor is therefore a
run of its state, and the laws of the state hold of every run of a monitor.
-/

namespace Vigil

namespace Monitor

/-- What may happen to a monitor. Loads are told apart by their numbers, counted from zero. -/
inductive Occasion where
  /-- A load is asked for, by the timer or otherwise. -/
  | load
  /-- A load gets the result of its request. -/
  | arrival (load : Nat) (result : FetchResult)
  | check (samples : List Sample)
  | reset
  | start (now : Moment)
  | stop
  /-- The timer was due and goes on. -/
  | tick

/-- A monitor with the loads that were asked of it. -/
structure Scene where
  monitor : Monitor
  /-- How many loads were asked for. -/
  asked : Nat
  /-- The loads that made their request and have not got its result. -/
  pending : List Nat

/-- What comes of an occasion. -/
structure Turn where
  scene : Scene
  effects : Effects
  request : Option FetchRequest

/-- The calls on the state of the alert by which a load with a given outcome ends. -/
def endingCalls (alert : Alert) : Except LoadFault (List Sample) → List AlertState.Operation
  | .ok samples => [.check samples, .transition loadedReport]
  | .error fault => [.transition (failedReport alert fault)]

/-- The state after calls for the alert of the monitor, and their notifications. -/
def runCalls (m : Monitor) (calls : List AlertState.Operation) : AlertState × List Event :=
  m.state.run (calls.map fun call => (m.alert, call))

/-- Whether a monitor is stopped after an occasion: only a start and a stop change that. -/
def Occasion.stops (before : Bool) : Occasion → Bool
  | .start _ => false
  | .stop => true
  | _ => before

/-- Whether the last start or stop among occasions is a stop; where there is none of both, it is
as before. -/
def stopsAfter (before : Bool) (occasions : List Occasion) : Bool :=
  occasions.foldl Occasion.stops before

namespace Scene

/-- A new monitor, of which no load was asked. -/
def opening (alert : Alert) (source : Source) (debug : Bool) : Scene :=
  ⟨Monitor.make alert source debug, 0, []⟩

/-- The scene with its monitor changed, where nothing becomes known. -/
def quietly (scene : Scene) (m : Monitor) : Turn :=
  ⟨{ scene with monitor := m }, Effects.none, none⟩

/-- Takes an occasion. Nothing arrives for a load that waits for nothing. An arrival is one occasion
here: whether the monitor is retired is read, and the state is judged, with nothing in between. The
program reads the retired flag first and takes the lock of the state, and notifies, afterwards, so
that a stop may come in between there. -/
def take (scene : Scene) : Occasion → Turn
  | .load =>
      let (m, effects, request) := scene.monitor.beginLoad
      let pending := scene.pending ++ (request.map fun _ => scene.asked).toList
      ⟨⟨m, scene.asked + 1, pending⟩, effects, request⟩
  | .arrival load result =>
      if load ∈ scene.pending then
        let (m, effects) := scene.monitor.finishLoad result
        ⟨{ scene with monitor := m, pending := scene.pending.erase load }, effects, none⟩
      else scene.quietly scene.monitor
  | .check samples =>
      let (m, events) := scene.monitor.check samples
      ⟨{ scene with monitor := m }, ⟨events, []⟩, none⟩
  | .reset => scene.quietly scene.monitor.reset
  | .start now => scene.quietly (scene.monitor.start now)
  | .stop => scene.quietly scene.monitor.stop
  | .tick => scene.quietly scene.monitor.advanceTimer

/-- Takes occasions in their order: the last scene, and the notifications of all of them. -/
def run (scene : Scene) : List Occasion → Scene × List Event
  | [] => (scene, [])
  | occasion :: rest =>
      let turn := scene.take occasion
      let (last, events) := turn.scene.run rest
      (last, turn.effects.events ++ events)

/-- The calls that an occasion makes on the state of the alert. -/
def calls (scene : Scene) : Occasion → List AlertState.Operation
  | .load => if scene.monitor.loading then [.transition overlapReport] else []
  | .arrival load result =>
      if load ∈ scene.pending ∧ scene.monitor.retired = false then
        endingCalls scene.monitor.alert (scene.monitor.outcome result)
      else []
  | .check samples => [.check samples]
  | .reset => [.reset]
  | .start _ | .stop | .tick => []

/-- The calls that occasions make on the state of the alert, one after the other. -/
def callsOf (scene : Scene) : List Occasion → List AlertState.Operation
  | [] => []
  | occasion :: rest => scene.calls occasion ++ (scene.take occasion).scene.callsOf rest

end Scene

variable {m : Monitor}

/-- A load that meets another one only reports that. -/
theorem beginLoad_of_loading (busy : m.loading = true) :
    m.beginLoad =
      ({ m with state := (m.state.transition m.alert overlapReport).1 },
        ⟨(m.state.transition m.alert overlapReport).2.toList, [m.overlapEntry]⟩, none) := by
  simp [beginLoad, busy, report, overlapEntry]

/-- A load that meets no other one only makes its request. -/
theorem beginLoad_of_free (free : m.loading = false) :
    m.beginLoad = ({ m with loading := true }, Effects.none, some m.source.request) := by
  simp [beginLoad, free]

/-- A load with an outcome changes the state alone, by its calls. -/
theorem judge_eq (m : Monitor) (outcome : Except LoadFault (List Sample)) :
    (m.judge outcome).1 = { m with state := (m.runCalls (endingCalls m.alert outcome)).1 } ∧
      (m.judge outcome).2.events = (m.runCalls (endingCalls m.alert outcome)).2 := by
  cases outcome with
  | ok samples =>
    simp [judge, endingCalls, runCalls, AlertState.run, AlertState.perform, check, report]
  | error fault =>
    simp [judge, endingCalls, runCalls, AlertState.run, AlertState.perform, report]

/-- A load that ends changes the state by the calls of its outcome, and not at all if the monitor
was stopped. -/
theorem finishLoad_eq (m : Monitor) (result : FetchResult) :
    let ended := m.runCalls (if m.retired then [] else endingCalls m.alert (m.outcome result))
    (m.finishLoad result).1 = { m with loading := false, state := ended.1 } ∧
      (m.finishLoad result).2.events = ended.2 := by
  intro ended
  by_cases stopped : m.retired = true
  · simp [ended, finishLoad, stopped, runCalls, AlertState.run, Effects.none]
  · have ends : m.finishLoad result = { m with loading := false }.judge (m.outcome result) := by
      simp [finishLoad, stopped]
    simp only [ended, ends, if_neg stopped]
    exact judge_eq { m with loading := false } (m.outcome result)

namespace Scene

variable {scene : Scene} {alert : Alert} {source : Source} {debug : Bool}

/-- What every occasion keeps is kept by every run. -/
theorem run_invariant (kept : Scene → Prop)
    (keeps : ∀ scene occasion, kept scene → kept (scene.take occasion).scene)
    (occasions : List Occasion) (start : kept scene) : kept (scene.run occasions).1 := by
  induction occasions generalizing scene with
  | nil => exact start
  | cons occasion rest ih => exact ih (keeps scene occasion start)

/-- Whatever happens, the alert and its source stay. -/
theorem alert_source_take (scene : Scene) (occasion : Occasion) :
    (scene.take occasion).scene.monitor.alert = scene.monitor.alert ∧
      (scene.take occasion).scene.monitor.source = scene.monitor.source := by
  cases occasion with
  | load =>
    cases busy : scene.monitor.loading with
    | true => simp [take, beginLoad_of_loading busy]
    | false => simp [take, beginLoad_of_free busy]
  | arrival load result =>
    by_cases waits : load ∈ scene.pending
    · simp [take, waits, (finishLoad_eq scene.monitor result).1]
    · simp [take, waits, quietly]
  | _ => exact ⟨rfl, rfl⟩

/-- Only a start and a stop change whether the monitor is stopped. -/
theorem retired_take (scene : Scene) (occasion : Occasion) :
    (scene.take occasion).scene.monitor.retired = occasion.stops scene.monitor.retired := by
  cases occasion with
  | load =>
    cases busy : scene.monitor.loading with
    | true => simp [take, beginLoad_of_loading busy, Occasion.stops]
    | false => simp [take, beginLoad_of_free busy, Occasion.stops]
  | arrival load result =>
    by_cases waits : load ∈ scene.pending
    · simp [take, waits, (finishLoad_eq scene.monitor result).1, Occasion.stops]
    · simp [take, waits, quietly, Occasion.stops]
  | _ => rfl

/-- An occasion changes the state by its calls, and what it notifies are their notifications. -/
theorem take_eq_runCalls (scene : Scene) (occasion : Occasion) :
    ((scene.take occasion).scene.monitor.state, (scene.take occasion).effects.events) =
      scene.monitor.runCalls (scene.calls occasion) := by
  cases occasion with
  | load =>
    cases busy : scene.monitor.loading with
    | true =>
      simp [take, beginLoad_of_loading busy, calls, busy, runCalls, AlertState.run,
        AlertState.perform]
    | false =>
      simp [take, beginLoad_of_free busy, calls, busy, runCalls, AlertState.run, Effects.none]
  | arrival load result =>
    by_cases waits : load ∈ scene.pending
    · obtain ⟨ended, sent⟩ := finishLoad_eq scene.monitor result
      cases stopped : scene.monitor.retired <;>
        simp [take, waits, calls, stopped, ended, sent]
    · simp [take, waits, quietly, calls, runCalls, AlertState.run, Effects.none]
  | check samples =>
    simp [take, Monitor.check, calls, runCalls, AlertState.run, AlertState.perform]
  | reset => simp [take, quietly, Monitor.reset, calls, runCalls, AlertState.run,
      AlertState.perform, Effects.none]
  | _ => rfl

/-- Whatever happens, the alert stays. -/
theorem alert_run (scene : Scene) (occasions : List Occasion) :
    (scene.run occasions).1.monitor.alert = scene.monitor.alert :=
  run_invariant (fun after => after.monitor.alert = scene.monitor.alert)
    (fun before occasion same => (alert_source_take before occasion).1.trans same) occasions rfl

/-- Whatever happens, the source stays. -/
theorem source_run (scene : Scene) (occasions : List Occasion) :
    (scene.run occasions).1.monitor.source = scene.monitor.source :=
  run_invariant (fun after => after.monitor.source = scene.monitor.source)
    (fun before occasion same => (alert_source_take before occasion).2.trans same) occasions rfl

/-- A monitor is stopped after a run when the last start or stop of the run is a stop. -/
theorem retired_run (scene : Scene) (occasions : List Occasion) :
    (scene.run occasions).1.monitor.retired = stopsAfter scene.monitor.retired occasions := by
  induction occasions generalizing scene with
  | nil => rfl
  | cons occasion rest ih =>
    simp only [run, ih, retired_take, stopsAfter, List.foldl_cons]

/-- A run of a monitor is a run of its state. -/
theorem run_eq_runCalls (scene : Scene) (occasions : List Occasion) :
    ((scene.run occasions).1.monitor.state, (scene.run occasions).2) =
      scene.monitor.runCalls (scene.callsOf occasions) := by
  induction occasions generalizing scene with
  | nil => rfl
  | cons occasion rest ih =>
    have here := take_eq_runCalls scene occasion
    have later := ih (scene.take occasion).scene
    simp only [runCalls, (alert_source_take scene occasion).1] at here later ⊢
    simp only [run, callsOf, List.map_append, AlertState.run_append, ← here, ← later]

/-- A monitor never forgets a level that it knows. -/
theorem isSome_level?_run (occasions : List Occasion) {target : String}
    (known : (scene.monitor.state.level? target).isSome) :
    ((scene.run occasions).1.monitor.state.level? target).isSome := by
  have ran := congrArg Prod.fst (run_eq_runCalls scene occasions)
  dsimp only at ran
  rw [ran]
  exact AlertState.isSome_level?_calls _ known

/-- A new monitor knows the levels of the watch itself. -/
theorem isSome_level?_opening (alert : Alert) (source : Source) (debug : Bool) {target : String}
    (own : target = waitingTarget ∨ target = loadingTarget) :
    ((opening alert source debug).monitor.state.level? target).isSome := by
  rcases own with rfl | rfl <;> simp [opening, Monitor.make, AlertState.level?_initial]

end Scene

/-- An alert on the load of processors, critical above one hundred, for examples. -/
def cpuAlert : Alert where
  name := "cpu"
  source := Alert.graphSource
  query := "*.cpu"
  schedule := .every ⟨1, .minute⟩ (.ofWholeSeconds 60)
  timeWindow := ⟨1, .minute⟩
  lag := ⟨0, .second⟩
  rules := [⟨.critical, ⟨.greater, .value 100, .unchanged⟩, [], "critical: > 100"⟩]
  historySize := 1440
  noData := .critical
  loadingError := .critical
  sendInitial := false
  format := .short
  timeouts := ⟨.ofWholeSeconds 20, .ofWholeSeconds 20⟩
  publicUrl := "http://localhost"

/-- The source of that alert. -/
def cpuSource : Source :=
  .graphite ⟨"http://localhost/render/?target=*.cpu&from=-1min&until=-0s&format=raw", Method.get,
    cpuAlert.timeouts, none⟩ .average ⟨0, false⟩

/-- A new monitor of that alert. -/
def Scene.cpu : Scene := .opening cpuAlert cpuSource false

end Monitor

end Vigil
