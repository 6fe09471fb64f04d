import Vigil.Proofs.Monitor.Run

/-!
# One load at a time

However loads, their results and everything else are ordered, a monitor has at most one load
that waits for a result, and its flag is raised exactly while there is one. While there is one,
nothing makes a request, and a load that is asked for only warns that the other one takes long.
Whatever the result of the load that waits, the next load after it makes its request.
-/

namespace Vigil

namespace Monitor

namespace Scene

/-- One load waits for a result while the flag is raised, and none while it is not. -/
def OneFlight (scene : Scene) : Prop := scene.pending.length = scene.monitor.loading.toNat

/-- A turn does no more than to warn of the waiting: the level of that target alone becomes a
warning, which is notified unless it was one before. -/
structure OnlyWarns (scene : Scene) (turn : Turn) : Prop where
  request : turn.request = none
  pending : turn.scene.pending = scene.pending
  history? : ∀ target,
    turn.scene.monitor.state.history? target = scene.monitor.state.history? target
  level? : ∀ target, turn.scene.monitor.state.level? target =
    if target = waitingTarget then some .warning else scene.monitor.state.level? target
  events : turn.effects.events =
    if scene.monitor.state.level? waitingTarget = some .warning then []
    else [overlapReport.event scene.monitor.alert]
  log : turn.effects.log = [scene.monitor.overlapEntry]

variable {scene : Scene}

/-- Without the flag no load waits. -/
theorem pending_of_free (flight : scene.OneFlight) (free : scene.monitor.loading = false) :
    scene.pending = [] := by
  have none : scene.pending.length = 0 := by simpa [OneFlight, free] using flight
  exact List.length_eq_zero_iff.1 none

/-- With the flag one load waits. -/
theorem pending_of_busy (flight : scene.OneFlight) (busy : scene.monitor.loading = true) :
    ∃ load, scene.pending = [load] := by
  have one : scene.pending.length = 1 := by simpa [OneFlight, busy] using flight
  exact List.length_eq_one_iff.1 one

/-- A load that waits is the only one. -/
theorem pending_of_mem (flight : scene.OneFlight) {load : Nat} (waits : load ∈ scene.pending) :
    scene.pending = [load] := by
  cases flag : scene.monitor.loading with
  | false => simp [pending_of_free flight flag] at waits
  | true =>
    obtain ⟨other, only⟩ := pending_of_busy flight flag
    rw [only, List.mem_singleton] at waits
    rw [only, waits]

/-- At first no load waits. -/
theorem oneFlight_opening (alert : Alert) (source : Source) (debug : Bool) :
    (opening alert source debug).OneFlight := rfl

/-- When the result of the load that waits has arrived, none waits, whatever the result. -/
theorem take_arrival (flight : scene.OneFlight) {load : Nat} (waits : load ∈ scene.pending)
    (result : FetchResult) :
    (scene.take (.arrival load result)).scene.pending = [] ∧
      (scene.take (.arrival load result)).scene.monitor.loading = false := by
  have only := pending_of_mem flight waits
  simp [take, only]

/-- Every occasion leaves one load at most that waits, with the flag raised, or none. -/
theorem oneFlight_take (scene : Scene) (occasion : Occasion) (flight : scene.OneFlight) :
    (scene.take occasion).scene.OneFlight := by
  cases occasion with
  | load =>
    cases flag : scene.monitor.loading with
    | true => simpa [OneFlight, take, beginLoad_of_loading flag, flag] using flight
    | false =>
      have idle := pending_of_free flight flag
      simp [OneFlight, take, beginLoad_of_free flag, idle]
  | arrival load result =>
    by_cases waits : load ∈ scene.pending
    · obtain ⟨landed, lowered⟩ := take_arrival flight waits result
      simp [OneFlight, landed, lowered]
    · simpa [OneFlight, take, waits, quietly] using flight
  | _ => exact flight

/-- Every run leaves one load at most that waits, with the flag raised, or none. -/
theorem oneFlight_run (alert : Alert) (source : Source) (debug : Bool)
    (occasions : List Occasion) : ((opening alert source debug).run occasions).1.OneFlight :=
  run_invariant OneFlight oneFlight_take occasions (oneFlight_opening alert source debug)

/-- Nothing makes a request while a load is under way. -/
theorem request_of_loading (busy : scene.monitor.loading = true) (occasion : Occasion) :
    (scene.take occasion).request = none := by
  cases occasion with
  | load => simp [take, beginLoad_of_loading busy]
  | arrival load result => by_cases waits : load ∈ scene.pending <;> simp [take, waits, quietly]
  | _ => rfl

/-- A load that meets no other one makes its request, changes nothing else and reports nothing. -/
theorem take_load_of_free (flight : scene.OneFlight) (free : scene.monitor.loading = false) :
    scene.take .load =
      ⟨⟨{ scene.monitor with loading := true }, scene.asked + 1, [scene.asked]⟩, Effects.none,
        some scene.monitor.source.request⟩ := by
  simp [take, beginLoad_of_free free, pending_of_free flight free]

/-- A load that meets another one only warns of the waiting. -/
theorem take_load_of_loading (busy : scene.monitor.loading = true)
    (known : (scene.monitor.state.level? waitingTarget).isSome) :
    scene.OnlyWarns (scene.take .load) := by
  have tracked : (scene.monitor.state.level? overlapReport.target).isSome := known
  obtain ⟨levels, sent⟩ := AlertState.transition_of_known scene.monitor.alert tracked
  simp only [take, beginLoad_of_loading busy]
  exact ⟨rfl, by simp, AlertState.history?_transition _ _ _, levels, sent, rfl⟩

/-- After the result of the load that waits, the next load makes its request, whatever the
result. -/
theorem take_load_after_arrival (flight : scene.OneFlight) {load : Nat}
    (waits : load ∈ scene.pending) (result : FetchResult) :
    let landed := (scene.take (.arrival load result)).scene
    (landed.take .load).request = some scene.monitor.source.request ∧
      (landed.take .load).scene.pending = [landed.asked] := by
  intro landed
  have still : landed.OneFlight := oneFlight_take scene _ flight
  have kept : landed.monitor.source = scene.monitor.source :=
    (alert_source_take scene (.arrival load result)).2
  rw [take_load_of_free still (take_arrival flight waits result).2, kept]
  exact ⟨rfl, rfl⟩

/-- Whatever happened to a monitor: either its flag is lowered and no load waits, and then the next
load makes its request and waits; or its flag is raised and just one load waits. Then nothing makes
a request, and another load only warns of the waiting; and when the result comes for the load that
waits, of whatever kind and whether or not the monitor was stopped, the flag is lowered and the
next load makes its request. -/
theorem flight_of_run (alert : Alert) (source : Source) (debug : Bool)
    (occasions : List Occasion) :
    let scene := ((opening alert source debug).run occasions).1
    (scene.monitor.loading = false ∧ scene.pending = [] ∧
        scene.take .load =
          ⟨⟨{ scene.monitor with loading := true }, scene.asked + 1, [scene.asked]⟩, Effects.none,
            some source.request⟩) ∨
      ∃ load, scene.monitor.loading = true ∧ scene.pending = [load] ∧
        (∀ occasion, (scene.take occasion).request = none) ∧
        scene.OnlyWarns (scene.take .load) ∧
        ∀ result,
          let landed := (scene.take (.arrival load result)).scene
          landed.monitor.loading = false ∧ landed.pending = [] ∧
            (landed.take .load).request = some source.request ∧
            (landed.take .load).scene.pending = [landed.asked] := by
  intro scene
  have flight : scene.OneFlight := oneFlight_run alert source debug occasions
  have sameSource : scene.monitor.source = source := source_run _ occasions
  rw [← sameSource]
  cases flag : scene.monitor.loading with
  | false =>
    left
    exact ⟨rfl, pending_of_free flight flag, take_load_of_free flight flag⟩
  | true =>
    right
    obtain ⟨load, only⟩ := pending_of_busy flight flag
    have waits : load ∈ scene.pending := only ▸ List.mem_singleton_self load
    have known : (scene.monitor.state.level? waitingTarget).isSome :=
      isSome_level?_run occasions (isSome_level?_opening alert source debug (.inl rfl))
    refine ⟨load, rfl, only, request_of_loading flag, take_load_of_loading flag known, ?_⟩
    intro result landed
    obtain ⟨empty, lowered⟩ := take_arrival flight waits result
    exact ⟨lowered, empty, take_load_after_arrival flight waits result⟩

end Scene

end Monitor

end Vigil
