import Vigil.Interval.Basic

/-!
# Interval settings

A setting for a length of time is a number of seconds or a text. A text of five
or six words is a cron expression; any other text is read as an interval.
-/

namespace Vigil

/-- A setting for a length of time or a schedule. -/
inductive IntervalSetting where
  | seconds (value : Double)
  | text (value : String)
deriving DecidableEq

namespace IntervalSetting

/-- The number of words of a text is that of a cron expression without or with seconds. -/
def hasCronShape (text : List Char) : Bool :=
  let count := (Text.words text).length
  count == 5 || count == 6

/-- The setting is a cron expression. -/
def isCron : IntervalSetting → Bool
  | seconds _ => false
  | text value => hasCronShape value.toList

/-- The interval of a setting. -/
def interval : IntervalSetting → Except InvalidInterval Interval
  | seconds value => Interval.ofSeconds value
  | text value => Interval.read value

/-- The setting as it was given. -/
def display : IntervalSetting → String
  | seconds value => String.ofList value.text
  | text value => value

end IntervalSetting

end Vigil
