import Mathlib.Data.List.Forall2
import Vigil.Handler.Delivery

/-!
# What a delivery makes of its handlers

A delivery has one attempt for each entry of the list of its level, in the order of the list, and no
other one. What becomes of an attempt is decided by the reply of its own handler and by the limit.
The statistics count a notification when its delivery begins, and its attempts when it ends.
-/

namespace Vigil

/-- What an attempt is when a handler is given a notification: the handler has its say if it answers
within the limit, and is given up at the limit otherwise. -/
structure Notified (limit : Duration) (now : Nat) (event : Event) (made : HandlerInstance)
    (attempt : Attempt) : Prop where
  handler : attempt.handler = made.handler.name
  answered : ∀ delay ∈ (made.handler.notify event).delay, delay ≤ limit.milliseconds →
    attempt.outcome = (made.handler.notify event).answer ∧ attempt.stop = now + delay
  stalled : (∀ delay ∈ (made.handler.notify event).delay, limit.milliseconds < delay) →
    attempt.outcome = .error (.timeout limit) ∧ attempt.stop = now + limit.milliseconds

/-- The attempt of a handler is what becomes of it. -/
theorem Attempt.notified_make (limit : Duration) (now : Nat) (event : Event)
    (made : HandlerInstance) :
    Notified limit now event made
      (make limit now made.handler.name (made.handler.notify event)) := by
  unfold make
  split
  · rename_i delay answers
    split
    · rename_i inTime
      refine ⟨rfl, fun time found _ => ?_, fun late => ?_⟩
      · obtain rfl : delay = time := Option.some.inj (answers.symm.trans found)
        exact ⟨rfl, rfl⟩
      · exact absurd inTime (Nat.not_le.2 (late delay answers))
    · rename_i late
      refine ⟨rfl, fun time found inTime => ?_, fun _ => ⟨rfl, rfl⟩⟩
      obtain rfl : delay = time := Option.some.inj (answers.symm.trans found)
      exact absurd inTime late
  · rename_i never
    exact ⟨rfl, fun time found _ => by simp [never] at found, fun _ => ⟨rfl, rfl⟩⟩

namespace HandlerTable

/-- The handlers that keep a notification, in the order of the list of its level. -/
def keepers (table : HandlerTable) (event : Event) : List HandlerInstance :=
  (table.handlers event.level).filter fun made => (made.handler.notify event).kept

/-- Each entry of the list of the level is notified once, and nothing else is. -/
theorem notified_deliver (table : HandlerTable) (now : Nat) (event : Event) :
    List.Forall₂ (Notified table.limit now event) (table.handlers event.level)
      (table.deliver now event).1.attempts := by
  simp only [deliver, List.map_map, List.forall₂_map_right_iff, List.forall₂_same]
  exact fun made _ => Attempt.notified_make table.limit now event made

/-- Each handler that keeps the notification gets it once for each of its entries. -/
theorem receipts_deliver (table : HandlerTable) (now : Nat) (event : Event) :
    (table.deliver now event).2.2 =
      (table.keepers event).map fun made => ⟨made.handler.name, event⟩ := by
  simp only [deliver, keepers, List.filter_map, List.map_map]
  rfl

end HandlerTable

namespace DeliveryStats

/-- Counts notifications whose deliveries begin, and the attempts of those that end. -/
def add (stats : DeliveryStats) (begun : Nat) (ended : List Attempt) : DeliveryStats where
  events := stats.events + begun
  delivered := stats.delivered + ended.countP (·.succeeded)
  failed := stats.failed + ended.countP fun attempt => !attempt.succeeded

@[simp] theorem add_nothing (stats : DeliveryStats) : stats.add 0 [] = stats := rfl

theorem begin_eq_add (stats : DeliveryStats) : stats.begin = stats.add 1 [] := rfl

theorem count_eq_add (stats : DeliveryStats) (attempt : Attempt) :
    stats.count attempt = stats.add 0 [attempt] := by
  unfold count
  cases succeeded : attempt.succeeded <;> simp [add, succeeded]

/-- Counts add up. -/
theorem add_add (stats : DeliveryStats) (begun more : Nat) (ended others : List Attempt) :
    (stats.add begun ended).add more others = stats.add (begun + more) (ended ++ others) := by
  simp [add, Nat.add_assoc]

theorem countAll_eq_add (stats : DeliveryStats) (attempts : List Attempt) :
    stats.countAll attempts = stats.add 0 attempts := by
  induction attempts generalizing stats with
  | nil => rfl
  | cons attempt rest ih =>
    change (stats.count attempt).countAll rest = _
    rw [ih, count_eq_add, add_add]
    rfl

/-- Each attempt that ended is counted once. -/
theorem add_sum (stats : DeliveryStats) (begun : Nat) (ended : List Attempt) :
    (stats.add begun ended).delivered + (stats.add begun ended).failed =
      stats.delivered + stats.failed + ended.length := by
  have parts := ended.length_eq_countP_add_countP (·.succeeded)
  simp only [add, Bool.not_eq_true, Bool.decide_eq_false] at parts ⊢
  omega

end DeliveryStats

end Vigil
