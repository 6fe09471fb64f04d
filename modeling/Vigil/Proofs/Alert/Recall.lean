import Mathlib.Data.List.Induction
import Vigil.Proofs.Alert.Run

/-!
# What histories recall

The history of a target is lazily begun, filled and then moved on by the values of that
target alone. After any run it holds the last values that were checked for the target, as
many as there is room for, and a target without a value has no history. The law is an
equation for one step, carried over a run with the values seen so far.
-/

namespace Vigil

namespace History

/-- The history into which values were pushed one after another. -/
def ofValues (capacity : Nat) (values : List Double) : History :=
  values.foldl push (empty capacity)

/-- One value more is pushed last. -/
theorem ofValues_concat (capacity : Nat) (values : List Double) (x : Double) :
    ofValues capacity (values ++ [x]) = (ofValues capacity values).push x := by
  simp only [ofValues, List.foldl_append, List.foldl_cons, List.foldl_nil]

/-- The room of a history does not depend on what is pushed into it. -/
@[simp] theorem capacity_ofValues (capacity : Nat) (values : List Double) :
    (ofValues capacity values).capacity = max capacity 1 := by
  have kept : ∀ h : History, (values.foldl push h).capacity = h.capacity := by
    induction values with
    | nil => exact fun _ => rfl
    | cons x rest ih => exact fun h => ih (h.push x)
  exact kept (empty capacity)

/-- Whatever was forgotten on the way, the history holds the last values of all. -/
@[simp] theorem samples_ofValues (capacity : Nat) (values : List Double) :
    (ofValues capacity values).samples = latest (max capacity 1) values := by
  induction values using List.reverseRecOn with
  | nil => simp [ofValues, latest]
  | append_singleton values x ih =>
    have room : 0 < max capacity 1 := by omega
    rw [ofValues_concat, samples_push, capacity_ofValues, ih]
    exact latest_latest_append room values x

/-- A history is full once as many values were pushed as it has room for. -/
theorem isFull_ofValues_iff (capacity : Nat) (values : List Double) :
    (ofValues capacity values).isFull = true ↔ max capacity 1 ≤ values.length := by
  rw [isFull_iff, samples_ofValues, length_latest, capacity_ofValues]
  omega

/-- The history of a target that had these values; it begins with the first of them. -/
def recalled (capacity : Nat) (values : List Double) : Option History :=
  if values.isEmpty then none else some (ofValues capacity values)

/-- One value more is pushed to the history before it, or to an empty one. -/
theorem recalled_concat (capacity : Nat) (values : List Double) (x : Double) :
    recalled capacity (values ++ [x]) =
      some (((recalled capacity values).getD (empty capacity)).push x) := by
  cases values with
  | nil => rfl
  | cons first rest => simp [recalled, ← ofValues_concat]

end History

namespace AlertState

open History

/-- Steps carry the history of a target on from the values before them. -/
theorem history?_follow (state : AlertState) {target : String} (past : List Double)
    (recalls : state.history? target = recalled state.historySize past)
    (steps : List (Alert × Step)) :
    (state.follow steps).1.history? target =
      recalled state.historySize (past ++ valuesOf target steps) := by
  induction steps generalizing state past with
  | nil => simpa [follow, valuesOf] using recalls
  | cons next rest ih =>
    obtain ⟨alert, step⟩ := next
    have room : (state.advance alert step).1.historySize = state.historySize :=
      historySize_advance state alert step
    have after := history?_advance state alert step target
    cases brought : step.value? target with
    | none =>
      rw [brought] at after
      have goOn := ih (state.advance alert step).1 past (by rw [room, after, recalls])
      rw [room] at goOn
      simpa [follow, valuesOf, brought] using goOn
    | some x =>
      rw [brought] at after
      have goOn := ih (state.advance alert step).1 (past ++ [x])
        (by rw [room, after, recalls, recalled_concat])
      rw [room] at goOn
      simpa [follow, valuesOf, brought] using goOn

/-- The histories of a state are recalled from the values of the steps before it. -/
def Recalls (state : AlertState) (past : List Step) : Prop :=
  ∀ target, state.history? target =
    recalled state.historySize (past.filterMap (Step.value? target))

/-- Nothing is recalled at first. -/
theorem recalls_initial (historySize : Nat) : (initial historySize).Recalls [] :=
  fun _ => rfl

namespace Recalls

variable {state : AlertState} {past : List Step}

/-- After more steps those are recalled too. -/
protected theorem follow (recalls : state.Recalls past) (alert : Alert) (steps : List Step) :
    (state.follow (steps.map fun step => (alert, step))).1.Recalls (past ++ steps) := by
  intro target
  rw [historySize_follow, history?_follow state _ (recalls target), List.filterMap_append]
  simp only [valuesOf, List.filterMap_map]
  rfl

/-- After a step it is recalled too. -/
protected theorem advance (recalls : state.Recalls past) (alert : Alert) (step : Step) :
    (state.advance alert step).1.Recalls (past ++ [step]) :=
  recalls.follow alert [step]

/-- A reset forgets no values. -/
protected theorem reset (recalls : state.Recalls past) : state.reset.Recalls past := recalls

end Recalls

/-- After a run the history of a target is made of its values alone. -/
theorem history?_run (historySize : Nat) (calls : List (Alert × Operation)) (target : String) :
    ((initial historySize).run calls).1.history? target =
      recalled historySize (valuesOf target (stepsOf calls)) := by
  rw [run_eq_follow]
  exact history?_follow (initial historySize) [] rfl (stepsOf calls)

/-- Whatever is called, a target has no history before its first value, and after it the history
holds the last of its values, oldest first, up to the room that is never exceeded. -/
theorem history_of_run (historySize : Nat) (calls : List (Alert × Operation)) (target : String) :
    let values := valuesOf target (stepsOf calls)
    let room := max historySize 1
    match ((initial historySize).run calls).1.history? target with
    | none => values = []
    | some history =>
        values ≠ [] ∧
        history.capacity = room ∧
        history.samples = values.drop (values.length - min values.length room) ∧
        (history.isFull = true ↔ room ≤ values.length) ∧
        history.samples.length ≤ room := by
  intro values room
  rw [history?_run]
  change match recalled historySize values with | none => _ | some history => _
  cases found : values with
  | nil => rfl
  | cons first rest =>
    have last : latest room (first :: rest) =
        (first :: rest).drop ((first :: rest).length - min (first :: rest).length room) := by
      unfold latest
      congr 1
      omega
    refine ⟨List.cons_ne_nil first rest, capacity_ofValues historySize _, ?_,
      isFull_ofValues_iff historySize _, ?_⟩
    · rw [← last]
      exact samples_ofValues historySize _
    · rw [samples_ofValues, length_latest]
      exact Nat.min_le_left _ _

end AlertState

end Vigil
