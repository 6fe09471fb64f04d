import Vigil.Schedule

/-!
# Timers

A running alert has a timer that is due at once when it starts and then by its
schedule. A fixed period is counted from one due time to the next. The firings of
a cron expression are placed on the running clock by the wall clock at the start.
-/

namespace Vigil

/-- A reading of both clocks, in milliseconds: since the watch began, and since the epoch. -/
structure Moment where
  elapsed : Nat
  wall : Int
deriving DecidableEq, Repr

/-- A repeated due time, in nanoseconds since the watch began. -/
structure Ticker where
  due : Nat
  period : Duration
deriving DecidableEq

namespace Ticker

/-- Nanoseconds in a millisecond. -/
def scale : Nat := Duration.perMillisecond

/-- A ticker that is due at once. -/
def now (elapsed : Nat) (period : Duration) : Ticker := ⟨elapsed * scale, period⟩

/-- The same ticker at its next due time. -/
def advance (ticker : Ticker) : Ticker :=
  { ticker with due := ticker.due + ticker.period.nanoseconds }

/-- The millisecond in which a ticker is noticed to be due. -/
def dueAt (ticker : Ticker) : Nat := (ticker.due + scale - 1) / scale

end Ticker

/-- The timer of an alert. -/
inductive Timer where
  | ticking (ticker : Ticker)
  /-- The firings of an expression; a missing second is that of the start itself. -/
  | firing (cron : Cron) (start : Moment) (second : Option Nat)
  /-- An expression that fires no more. -/
  | exhausted

namespace Timer

/-- The timer of a schedule, due at once. -/
def start (schedule : Schedule) (now : Moment) : Timer :=
  match schedule with
  | .every _ period => ticking (Ticker.now now.elapsed period)
  | .cron _ fires _ => firing fires now none

/-- The millisecond at which a timer is due. -/
def dueAt? : Timer → Option Nat
  | ticking ticker => some ticker.dueAt
  | firing _ start none => some start.elapsed
  | firing _ start (some second) => some (start.elapsed + (second * 1000 - start.wall).toNat)
  | exhausted => none

/-- The timer after it was due. -/
def advance : Timer → Timer
  | ticking ticker => ticking ticker.advance
  | firing fires start second =>
      let last := (second.map fun n => (n : Int)).getD (Schedule.wholeSecond start.wall)
      match fires.next last with
      | some next => firing fires start (some next)
      | none => exhausted
  | exhausted => exhausted

end Timer

end Vigil
