import Vigil.Calendar

/-!
# Cron expressions

A cron expression fires at the seconds of which every part is in its set: the
second, minute and hour, the day of the month and of the week, the month and the
year. The next firing is the first such second after a given one.
-/

namespace Vigil

/-- The parts of a firing. -/
inductive Cron.Part where
  | second
  | minute
  | hour
  | day
  | month
  | weekday
  | year
deriving DecidableEq, Repr

namespace Cron.Part

/-- The least value of a part. -/
def least : Part → Nat
  | second | minute | hour => 0
  | day | month | weekday => 1
  | year => 1970

/-- The greatest value of a part. -/
def greatest : Part → Nat
  | second | minute => 59
  | hour => 23
  | day => 31
  | month => 12
  | weekday => 7
  | year => 2100

/-- All values of a part in ascending order. -/
def all (part : Part) : List Nat := List.range' part.least (part.greatest + 1 - part.least)

/-- The value is one of the part. -/
def admits (part : Part) (value : Nat) : Bool := part.least ≤ value && value ≤ part.greatest

end Cron.Part

/-- A cron expression: the set of values of each part, in ascending order. -/
structure Cron where
  seconds : List Nat
  minutes : List Nat
  hours : List Nat
  days : List Nat
  months : List Nat
  weekdays : List Nat
  years : List Nat
deriving DecidableEq

namespace Cron

/-- The first time of a day from a bound on, in seconds since midnight. -/
def firstTime (cron : Cron) (bound : Nat) : Option Nat :=
  cron.hours.findSome? fun hour =>
    if (hour + 1) * 3600 ≤ bound then none
    else cron.minutes.findSome? fun minute =>
      if hour * 3600 + (minute + 1) * 60 ≤ bound then none
      else
        (cron.seconds.find? fun second => bound ≤ hour * 3600 + minute * 60 + second).map
          fun second => hour * 3600 + minute * 60 + second

/-- The first firing on a day from a bound on, in seconds since the epoch. -/
def firstOnDay (cron : Cron) (bound year month day : Nat) : Option Nat :=
  let number := Calendar.dayNumber year month day
  let midnight := number * Calendar.secondsPerDay
  if !cron.weekdays.contains (Calendar.weekday number) then none
  else if midnight + Calendar.secondsPerDay ≤ bound then none
  else (cron.firstTime (bound - midnight)).map fun time => midnight + time

/-- The first firing from a bound on, in seconds since the epoch. -/
def firstFrom (cron : Cron) (bound : Nat) : Option Nat :=
  cron.years.findSome? fun year =>
    if Calendar.yearStart (year + 1) * Calendar.secondsPerDay ≤ bound then none
    else cron.months.findSome? fun month =>
      (cron.days.filter fun day => day ≤ Calendar.daysInMonth year month).findSome?
        (cron.firstOnDay bound year month)

/-- The first firing after a second. -/
def next (cron : Cron) (after : Int) : Option Nat := cron.firstFrom (after + 1).toNat

/-- The first firings after a second, at most `count` of them. -/
def firings (cron : Cron) (after : Int) : Nat → List Nat
  | 0 => []
  | count + 1 =>
      match cron.next after with
      | some time => time :: cron.firings time count
      | none => []

/-- A time of day does not lie before its bound. -/
theorem le_of_firstTime {cron : Cron} {bound time : Nat} (found : cron.firstTime bound = some time) :
    bound ≤ time := by
  obtain ⟨hour, -, found⟩ := List.exists_of_findSome?_eq_some found
  split at found
  · cases found
  · obtain ⟨minute, -, found⟩ := List.exists_of_findSome?_eq_some found
    split at found
    · cases found
    · obtain ⟨second, here, rfl⟩ := Option.map_eq_some_iff.1 found
      simpa using List.find?_some here

/-- A firing on a day does not lie before its bound. -/
theorem le_of_firstOnDay {cron : Cron} {bound year month day time : Nat}
    (found : cron.firstOnDay bound year month day = some time) : bound ≤ time := by
  unfold firstOnDay at found
  simp only at found
  split at found
  · cases found
  · split at found
    · cases found
    · obtain ⟨clock, here, rfl⟩ := Option.map_eq_some_iff.1 found
      have := le_of_firstTime here
      omega

/-- A firing does not lie before its bound. -/
theorem le_of_firstFrom {cron : Cron} {bound time : Nat}
    (found : cron.firstFrom bound = some time) : bound ≤ time := by
  obtain ⟨year, -, found⟩ := List.exists_of_findSome?_eq_some found
  split at found
  · cases found
  · obtain ⟨month, -, found⟩ := List.exists_of_findSome?_eq_some found
    obtain ⟨day, -, found⟩ := List.exists_of_findSome?_eq_some found
    exact le_of_firstOnDay found

/-- The next firing lies after the given second. -/
theorem lt_of_next {cron : Cron} {after : Int} {time : Nat} (found : cron.next after = some time) :
    after < time := by
  have := le_of_firstFrom found
  omega

end Cron

end Vigil
