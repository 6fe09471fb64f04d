import Vigil.Config.IntervalSetting
import Vigil.Cron.Reading

/-!
# Schedules

An alert is polled at a fixed period or at the firings of a cron expression. The
period of a cron expression is the time between its next two firings, so reading
one depends on the time of reading.
-/

namespace Vigil

/-- When an alert is polled. -/
inductive Schedule where
  | every (interval : Interval) (period : Duration)
  | cron (expression : String) (cron : Cron) (period : Interval)

/-- Why a cron expression cannot be used. -/
inductive CronFault where
  | malformed
  | neverFires
deriving DecidableEq, Repr

/-- The wording of a fault. -/
def CronFault.reason : CronFault → String
  | malformed => "Invalid expression: Invalid cron expression."
  | neverFires => "never fires"

/-- Why a setting is not a schedule. -/
inductive ScheduleFault where
  | interval (e : InvalidInterval)
  | zero
  | tooLarge (interval : Interval)
  | cron (expression : String) (fault : CronFault)
deriving DecidableEq

/-- The message of a refused schedule. -/
def ScheduleFault.message : ScheduleFault → String
  | interval e => e.message
  | zero => "Poll interval must be positive"
  | tooLarge length => "Poll interval " ++ length.text ++ " is too large"
  | cron expression fault =>
      "Invalid cron expression " ++ Text.quoted expression ++ ": " ++ fault.reason

/-- What reads cron expressions, and tells the first firing of each after a second. Firings are
whole seconds since the epoch. -/
structure CronReader (C : Type) where
  read : List Char → Option C
  next : C → Int → Option Nat

/-- The reader of the expressions here. -/
def Cron.reader : CronReader Cron := ⟨Cron.read, Cron.next⟩

namespace Schedule

/-- A cron expression with its part for seconds, where five words have none. -/
def normalizeCron (expression : List Char) : List Char :=
  let trimmed := Text.trim expression
  if (Text.words trimmed).length = 5 then '0' :: ' ' :: trimmed else trimmed

/-- The whole second of a time in milliseconds since the epoch. -/
def wholeSecond (now : Int) : Int := now / 1000

/-- The schedule of a fixed interval, which must be a positive length for a timer. -/
def ofInterval (length : Interval) : Except ScheduleFault Schedule :=
  match length.duration with
  | .error _ => .error (.tooLarge length)
  | .ok period => if period.nanoseconds = 0 then .error .zero else .ok (.every length period)

/-- The milliseconds between the first two firings after a second. -/
def gapMillis? (next : Int → Option Nat) (after : Int) : Option Nat := do
  let first ← next after
  let second ← next first
  some ((second - first) * 1000)

/-- The interval of whole milliseconds, taken as a number of seconds. -/
def ofMillis (millis : Nat) : Except InvalidInterval Interval :=
  Interval.ofSeconds (Double.ofNat millis / 1000)

/-- Reads a cron expression that fires twice after now. Its period is the time between these
firings. -/
def readCron {C : Type} (reader : CronReader C) (now : Int) (expression : String) :
    Except ScheduleFault (C × Interval) :=
  match reader.read (normalizeCron expression.toList) with
  | none => .error (.cron expression .malformed)
  | some fires =>
      match gapMillis? (reader.next fires) (wholeSecond now) with
      | none => .error (.cron expression .neverFires)
      | some millis => ((ofMillis millis).mapError .interval).map fun period => (fires, period)

/-- The schedule of a cron expression. -/
def ofCron (now : Int) (expression : String) : Except ScheduleFault Schedule :=
  (readCron Cron.reader now expression).map fun found =>
    .cron (String.ofList (Text.trim expression.toList)) found.1 found.2

/-- The schedule of a setting, read at a time in milliseconds since the epoch. -/
def ofSetting (now : Int) (setting : IntervalSetting) : Except ScheduleFault Schedule :=
  match setting with
  | .text expression =>
      if setting.isCron then ofCron now expression
      else (setting.interval.mapError .interval).bind ofInterval
  | .seconds _ => (setting.interval.mapError .interval).bind ofInterval

/-- The schedule of every alert while debugging: five seconds. -/
def debug : Schedule :=
  .every (Interval.ofDuration (.ofWholeSeconds 5)) (.ofWholeSeconds 5)

/-- The schedule is a cron expression. -/
def isCron : Schedule → Bool
  | every _ _ => false
  | cron _ _ _ => true

/-- The poll interval; of a cron expression the time between its next two firings. -/
def interval : Schedule → Interval
  | every length _ => length
  | cron _ _ period => period

/-- The schedule as it is shown. -/
def text : Schedule → String
  | every length _ => length.text
  | cron expression _ _ => expression

end Schedule

end Vigil
