import Vigil.Double.Basic
import Vigil.Decimal.Basic

/-!
# Timer durations

A duration is a whole number of nanoseconds, and the seconds of a timer must be
below `2 ^ 64`. A number of seconds becomes a duration by rounding to the nearest
nanosecond; negative, infinite and too large numbers have none.
-/

namespace Vigil

/-- A length of time that a timer can wait. -/
structure Duration where
  nanoseconds : Nat
deriving DecidableEq, Repr

namespace Duration

/-- Nanoseconds in a second. -/
def perSecond : Nat := 1000000000

/-- Nanoseconds in a millisecond. -/
def perMillisecond : Nat := 1000000

/-- The whole seconds of a duration. -/
def seconds (d : Duration) : Nat := d.nanoseconds / perSecond

/-- The nanoseconds beyond the whole seconds. -/
def fraction (d : Duration) : Nat := d.nanoseconds % perSecond

/-- The milliseconds of a duration, a fraction of one counted as a whole one. -/
def milliseconds (d : Duration) : Nat := (d.nanoseconds + perMillisecond - 1) / perMillisecond

/-- The duration of a whole number of seconds. -/
def ofWholeSeconds (n : Nat) : Duration := ⟨n * perSecond⟩

/-- The duration of a number of seconds, to the nearest nanosecond with ties to even. -/
def ofSeconds? : Double → Option Duration
  | .finite negative m =>
      if negative ∧ m.count ≠ 0 then none
      else
        let nanoseconds := Double.roundParts m perSecond
        if nanoseconds < 18446744073709551616 * perSecond then some ⟨nanoseconds⟩ else none
  | _ => none

/-- A duration that is not zero, as timers need. -/
def positive? (x : Double) : Option Duration :=
  (ofSeconds? x).filter fun d => d.nanoseconds ≠ 0

/-- A whole part and the digits of a fraction of `places` digits, without zeros at the end. -/
def decimalText (whole fraction places : Nat) : List Char :=
  let digits := Decimal.numeral fraction
  let padded := List.replicate (places - digits.length) '0' ++ digits
  let kept := (padded.reverse.dropWhile (· = '0')).reverse
  Decimal.numeral whole ++ if kept.isEmpty then [] else '.' :: kept

/-- The duration in the largest unit of which it holds a whole one. -/
def text (d : Duration) : List Char :=
  if 0 < d.seconds then decimalText d.seconds d.fraction 9 ++ ['s']
  else if perMillisecond ≤ d.nanoseconds then
    decimalText (d.nanoseconds / perMillisecond) (d.nanoseconds % perMillisecond) 6 ++ ['m', 's']
  else if 1000 ≤ d.nanoseconds then
    decimalText (d.nanoseconds / 1000) (d.nanoseconds % 1000) 3 ++ ['µ', 's']
  else Decimal.numeral d.nanoseconds ++ ['n', 's']

end Duration

end Vigil
