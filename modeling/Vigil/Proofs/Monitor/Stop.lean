import Vigil.Proofs.Monitor.Flight

/-!
# Loads and stops

The result of a load is thrown away when the monitor is stopped at the moment at which it
arrives: what counts is the last start or stop before that moment. As long as no start follows
a stop, the results that arrive change nothing and are not notified. A start also readmits the
results of loads from before the stop.

A stopped monitor takes the request for a load as any other. A load that meets no other one
changes nothing, but one that meets another warns of the waiting, stopped or not.
-/

namespace Vigil

namespace Monitor

/-- Whether an occasion is a start. -/
def Occasion.isStart : Occasion → Bool
  | .start _ => true
  | _ => false

/-- A stop lasts as long as there is no start. -/
theorem stopsAfter_of_no_start {occasions : List Occasion}
    (unstarted : ∀ occasion ∈ occasions, occasion.isStart = false) :
    stopsAfter true occasions = true := by
  induction occasions with
  | nil => rfl
  | cons occasion rest ih =>
    obtain ⟨here, later⟩ := List.forall_mem_cons.1 unstarted
    have lasts : occasion.stops true = true := by
      cases occasion with
      | start now => exact absurd here (by simp [Occasion.isStart])
      | _ => rfl
    rw [stopsAfter, List.foldl_cons, lasts]
    exact ih later

namespace Scene

variable {scene : Scene}

/-- After a stop, a monitor is stopped if the last start or stop since then is a stop. -/
theorem retired_run_stop (scene : Scene) (before after : List Occasion) :
    (scene.run (before ++ .stop :: after)).1.monitor.retired = stopsAfter true after := by
  rw [retired_run, stopsAfter, List.foldl_append, List.foldl_cons]
  rfl

/-- Nothing comes of a result that arrives at a stopped monitor. -/
theorem take_arrival_of_retired (stopped : scene.monitor.retired = true) (load : Nat)
    (result : FetchResult) :
    ((scene.take (.arrival load result)).scene.monitor.state,
      (scene.take (.arrival load result)).effects.events) = (scene.monitor.state, []) := by
  rw [take_eq_runCalls]
  simp [calls, stopped, runCalls, AlertState.run]

/-- A load waits for its result, and a stop comes before the result. The result is thrown away if
the last start or stop before its arrival is a stop. Otherwise the load ends as if there had been
no stop. -/
theorem arrival_after_stop (alert : Alert) (source : Source) (debug : Bool)
    (before after : List Occasion) (load : Nat) (result : FetchResult)
    (waits : load ∈ ((opening alert source debug).run (before ++ .stop :: after)).1.pending) :
    let scene := ((opening alert source debug).run (before ++ .stop :: after)).1
    let landed := scene.take (.arrival load result)
    (landed.scene.monitor.state, landed.effects.events) =
      if stopsAfter true after then (scene.monitor.state, [])
      else scene.monitor.runCalls (endingCalls alert (scene.monitor.outcome result)) := by
  intro scene landed
  have flag : scene.monitor.retired = stopsAfter true after := retired_run_stop _ before after
  cases last : stopsAfter true after with
  | true =>
    rw [last] at flag
    exact take_arrival_of_retired flag load result
  | false =>
    rw [last] at flag
    have sameAlert : scene.monitor.alert = alert := alert_run _ _
    rw [take_eq_runCalls]
    simp [calls, flag, sameAlert, show load ∈ scene.pending from waits]

/-- A stop that lasts until the result arrives is heeded. -/
theorem arrival_after_lasting_stop :
    let scene := (cpu.run ([.load] ++ .stop :: [.reset])).1
    let landed := scene.take (.arrival 0 (.ok ⟨200, "a,1,2,60|120\n"⟩))
    0 ∈ scene.pending ∧
      (landed.scene.monitor.state, landed.effects.events) = (scene.monitor.state, []) := by
  have waits : 0 ∈ (cpu.run ([.load] ++ .stop :: [.reset])).1.pending := by decide +kernel
  exact ⟨waits, arrival_after_stop cpuAlert cpuSource false [.load] [.reset] 0 _ waits⟩

/-- A load waits when its monitor is stopped, and the monitor is started again before the result
arrives: the result is taken and notified. -/
theorem restart_readmits_result :
    let stopped := (cpu.run [.load, .stop]).1
    let restarted := (stopped.take (.start ⟨2000, 1700000002000⟩)).scene
    let landed := restarted.take (.arrival 0 (.ok ⟨200, "a,1,2,60|120\n"⟩))
    0 ∈ stopped.pending ∧ stopped.monitor.retired = true ∧ 0 ∈ restarted.pending ∧
      restarted.monitor.state.level? "a" = none ∧
      landed.scene.monitor.state.level? "a" = some .critical ∧
      landed.effects.events.map (fun event => (event.target, event.level)) = [("a", .critical)] := by
  decide +kernel

/-- As long as no start follows a stop, no result of a load changes the state or is notified, and
neither does a load that meets no other one. A load that meets another one warns of the waiting
and does no more. -/
theorem loads_after_stop (alert : Alert) (source : Source) (debug : Bool)
    (before after : List Occasion)
    (unstarted : ∀ occasion ∈ after, occasion.isStart = false) :
    let scene := ((opening alert source debug).run (before ++ .stop :: after)).1
    let asked := scene.take .load
    (∀ load result,
      ((scene.take (.arrival load result)).scene.monitor.state,
        (scene.take (.arrival load result)).effects.events) = (scene.monitor.state, [])) ∧
      (scene.pending = [] ∧
          (asked.scene.monitor.state, asked.effects.events) = (scene.monitor.state, []) ∨
        scene.pending ≠ [] ∧ scene.OnlyWarns asked) := by
  intro scene asked
  have stopped : scene.monitor.retired = true :=
    (retired_run_stop _ before after).trans (stopsAfter_of_no_start unstarted)
  have flight : scene.OneFlight := oneFlight_run alert source debug _
  refine ⟨take_arrival_of_retired stopped, ?_⟩
  cases flag : scene.monitor.loading with
  | false =>
    left
    refine ⟨pending_of_free flight flag, ?_⟩
    simp [asked, take_load_of_free flight flag, Effects.none]
  | true =>
    right
    obtain ⟨load, only⟩ := pending_of_busy flight flag
    have known : (scene.monitor.state.level? waitingTarget).isSome :=
      isSome_level?_run _ (isSome_level?_opening alert source debug (.inl rfl))
    exact ⟨by simp [only], take_load_of_loading flag known⟩

/-- A load that waits when its monitor is stopped gets its result for nothing. -/
theorem loads_after_stop_and_reset :
    let scene := (cpu.run ([.load] ++ .stop :: [.reset])).1
    (∀ occasion ∈ [Occasion.reset], occasion.isStart = false) ∧ scene.pending = [0] ∧
      ∀ load result,
        ((scene.take (.arrival load result)).scene.monitor.state,
          (scene.take (.arrival load result)).effects.events) = (scene.monitor.state, []) := by
  have unstarted : ∀ occasion ∈ [Occasion.reset], occasion.isStart = false := by
    simp [Occasion.isStart]
  exact ⟨unstarted, by decide +kernel,
    (loads_after_stop cpuAlert cpuSource false [.load] [.reset] unstarted).1⟩

/-- A load that meets another one is notified as a warning although the monitor was stopped. -/
theorem stopped_overlap_notifies :
    let stopped := (cpu.run [.load, .stop]).1
    let asked := stopped.take .load
    stopped.monitor.retired = true ∧
      stopped.monitor.state.level? waitingTarget = some .normal ∧
      asked.scene.monitor.state.level? waitingTarget = some .warning ∧
      asked.effects.events.map (fun event => (event.target, event.level)) =
        [(waitingTarget, .warning)] := by
  decide +kernel

end Scene

end Monitor

end Vigil
