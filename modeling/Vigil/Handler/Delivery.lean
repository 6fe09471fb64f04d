import Vigil.Handler.Table

/-!
# Deliveries

A notification goes to all handlers of its level at once. Each of them answers in
its own time or is given up at the limit, and the delivery ends with the last one.
-/

namespace Vigil

/-- A handler that was given a notification, which keeps it. -/
structure Receipt where
  handler : String
  event : Event

/-- The part of one handler in a delivery: when it ends and how. -/
structure Attempt where
  handler : String
  /-- In milliseconds since the watch began. -/
  stop : Nat
  outcome : Except HandlerFault Unit

namespace Attempt

/-- The attempt of a handler that begins at a time; an answer at the limit is in time. -/
def make (limit : Duration) (now : Nat) (name : String) (reply : Reply) : Attempt :=
  match reply.delay with
  | some delay =>
      if delay ≤ limit.milliseconds then ⟨name, now + delay, reply.answer⟩
      else ⟨name, now + limit.milliseconds, .error (.timeout limit)⟩
  | none => ⟨name, now + limit.milliseconds, .error (.timeout limit)⟩

/-- Whether the handler took the notification. -/
def succeeded (attempt : Attempt) : Bool := attempt.outcome.isOk

end Attempt

/-- How many notifications were delivered, and to how many handlers with which success. -/
structure DeliveryStats where
  events : Nat
  delivered : Nat
  failed : Nat
deriving DecidableEq, Repr

namespace DeliveryStats

/-- Nothing was delivered yet. -/
def zero : DeliveryStats := ⟨0, 0, 0⟩

/-- Counts a notification. -/
def begin (stats : DeliveryStats) : DeliveryStats := { stats with events := stats.events + 1 }

/-- Counts an attempt. -/
def count (stats : DeliveryStats) (attempt : Attempt) : DeliveryStats :=
  if attempt.succeeded then { stats with delivered := stats.delivered + 1 }
  else { stats with failed := stats.failed + 1 }

/-- Counts attempts in their order. -/
def countAll (stats : DeliveryStats) (attempts : List Attempt) : DeliveryStats :=
  attempts.foldl count stats

end DeliveryStats

/-- A notification under way to the handlers of its level. -/
structure Delivery where
  event : Event
  /-- When it began. -/
  start : Nat
  attempts : List Attempt

namespace Delivery

/-- The part of the program that reports on deliveries. -/
def place : String := "reactor"

/-- The entry of a delivery that begins. -/
def beginEntry (event : Event) : LogEntry :=
  ⟨.info, place, "Notify",
    [("level", event.level.name), ("alert", event.alert.text), ("target", event.target),
      ("value", event.valueText)]⟩

/-- The entries of a handler that failed. -/
def failureEntries (event : Event) (attempt : Attempt) : List LogEntry :=
  match attempt.outcome with
  | .ok () => []
  | .error fault =>
      [⟨.error, place, "Notification failed",
        [("handler", attempt.handler), ("alert", event.alert.name), ("error", fault.message)]⟩]

/-- When the last handler is done. -/
def stop (delivery : Delivery) : Nat :=
  delivery.attempts.foldl (fun time attempt => max time attempt.stop) delivery.start

/-- The entries of the handlers that failed. -/
def failures (delivery : Delivery) : List LogEntry :=
  delivery.attempts.flatMap (failureEntries delivery.event)

end Delivery

namespace HandlerTable

/-- Begins the delivery of a notification: what the handlers write and keep at once. -/
def deliver (table : HandlerTable) (now : Nat) (event : Event) :
    Delivery × List LogEntry × List Receipt :=
  let replies := (table.handlers event.level).map fun made =>
    (made.handler.name, made.handler.notify event)
  (⟨event, now, replies.map fun reply => Attempt.make table.limit now reply.1 reply.2⟩,
    Delivery.beginEntry event :: replies.flatMap (·.2.log),
    (replies.filter (·.2.kept)).map fun reply => ⟨reply.1, event⟩)

end HandlerTable

end Vigil
