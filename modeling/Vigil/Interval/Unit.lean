import Vigil.Double.Basic

/-!
# Time units

The eight units of intervals, their lengths in milliseconds, and the spellings
by which they are read, shown, and sent to the render service.
-/

namespace Vigil

/-- A unit of an interval; months have thirty days and years three hundred and sixty-five. -/
inductive TimeUnit where
  | millisecond
  | second
  | minute
  | hour
  | day
  | week
  | month
  | year
deriving DecidableEq, Repr

namespace TimeUnit

/-- The length of a unit in milliseconds. -/
def millis : TimeUnit → Nat
  | millisecond => 1
  | second => 1000
  | minute => 60000
  | hour => 3600000
  | day => 86400000
  | week => 604800000
  | month => 2592000000
  | year => 31536000000

/-- The length of a unit in milliseconds, as a number. -/
def width (unit : TimeUnit) : Double := Double.ofNat unit.millis

/-- The long name of a unit. -/
def name : TimeUnit → String
  | millisecond => "millisecond"
  | second => "second"
  | minute => "minute"
  | hour => "hour"
  | day => "day"
  | week => "week"
  | month => "month"
  | year => "year"

/-- The short token of a unit; case tells minutes from months. -/
def token : TimeUnit → String
  | millisecond => "ms"
  | second => "s"
  | minute => "m"
  | hour => "h"
  | day => "d"
  | week => "w"
  | month => "M"
  | year => "y"

/-- The suffix of a unit in offsets of the render service, which knows no milliseconds. -/
def wireSuffix : TimeUnit → Option String
  | millisecond => none
  | second => some "s"
  | minute => some "min"
  | hour => some "h"
  | day => some "d"
  | week => some "w"
  | month => some "mon"
  | year => some "y"

/-- The units from the longest to the shortest. -/
def descending : List TimeUnit :=
  [year, month, week, day, hour, minute, second, millisecond]

/-- Reads a short token or a long name. -/
def ofToken? (text : String) : Option TimeUnit :=
  descending.find? fun unit => text = unit.token ∨ text = unit.name

/-- A unit is read from its short token. -/
theorem ofToken?_token (unit : TimeUnit) : ofToken? unit.token = some unit := by
  cases unit <;> decide

/-- A unit is read from its long name. -/
theorem ofToken?_name (unit : TimeUnit) : ofToken? unit.name = some unit := by
  cases unit <;> decide

/-- No unit is empty. -/
theorem millis_pos (unit : TimeUnit) : 0 < unit.millis := by
  cases unit <;> decide

end TimeUnit

end Vigil
