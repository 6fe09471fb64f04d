import Vigil.Decimal.Shortest
import Vigil.Duration
import Vigil.Interval.Unit
import Vigil.Text.Blank
import Vigil.Text.Digit
import Vigil.Text.Quoted

/-!
# Intervals

An interval is a number of time units, written without a space between the two.
Reading checks the shape first, then the unit, then the number, then the sign,
and the first check that fails is the cause of the refusal.
-/

namespace Vigil

/-- A number of time units. -/
structure Interval where
  value : Double
  unit : TimeUnit
deriving DecidableEq

/-- Why a text or a number is not an interval. -/
inductive IntervalFault where
  | shape
  | unknownUnit
  | magnitude
  | negative
  | notFinite
  | tooLarge
deriving DecidableEq, Repr

/-- The wording of a fault. -/
def IntervalFault.reason : IntervalFault → String
  | shape => "expected a number followed by a unit"
  | unknownUnit => "unknown time unit"
  | magnitude => "magnitude is not a number"
  | negative => "negative durations are not supported"
  | notFinite => "not a finite number"
  | tooLarge => "too large for a timer"

/-- A refused interval: what was given and why it is none. -/
structure InvalidInterval where
  input : String
  fault : IntervalFault
deriving DecidableEq, Repr

/-- The message of a refused interval. -/
def InvalidInterval.message (e : InvalidInterval) : String :=
  "Invalid duration " ++ Text.quoted e.input ++ ": " ++ e.fault.reason

namespace Interval

/-- The magnitude and the unit of a text that has the shape of an interval: an optional minus sign,
digits of any script with an optional point, and ASCII letters, with blanks allowed around. -/
def parts? (text : List Char) : Option (List Char × List Char) :=
  let body := Text.trim text
  let sign := if body.head? = some '-' then ['-'] else []
  let afterSign := if body.head? = some '-' then body.tail else body
  let whole := afterSign.takeWhile Text.isDecimalDigit
  let afterWhole := afterSign.dropWhile Text.isDecimalDigit
  let point := if afterWhole.head? = some '.' then ['.'] else []
  let afterPoint := if afterWhole.head? = some '.' then afterWhole.tail else afterWhole
  let places := afterPoint.takeWhile Text.isDecimalDigit
  let letters := afterPoint.dropWhile Text.isDecimalDigit
  if letters.isEmpty ∨ letters.any (fun c => !c.isAlpha) then none
  else some (sign ++ whole ++ point ++ places, letters)

/-- The first fault of a text, or its interval. -/
def readChars (text : List Char) : Except IntervalFault Interval :=
  match parts? text with
  | none => .error .shape
  | some (magnitude, letters) =>
      match TimeUnit.ofToken? (String.ofList letters) with
      | none => .error .unknownUnit
      | some unit =>
          match Double.read magnitude with
          | none => .error .magnitude
          | some value => if value.lt 0 then .error .negative else .ok ⟨value, unit⟩

/-- Reads an interval. -/
def read (text : String) : Except InvalidInterval Interval :=
  (readChars text.toList).mapError fun fault => ⟨text, fault⟩

/-- An interval of a finite number of units that is not negative. -/
def make (value : Double) (unit : TimeUnit) : Except InvalidInterval Interval :=
  let input := String.ofList value.text ++ unit.name
  if !value.isFinite then .error ⟨input, .notFinite⟩
  else if value.lt 0 then .error ⟨input, .negative⟩
  else .ok ⟨value, unit⟩

/-- An interval of seconds. -/
def ofSeconds (seconds : Double) : Except InvalidInterval Interval := make seconds .second

/-- An interval that is made has the number and the unit that it is made of. -/
theorem eq_of_make {value : Double} {unit : TimeUnit} {i : Interval}
    (made : make value unit = .ok i) : i = ⟨value, unit⟩ := by
  unfold make at made
  dsimp only at made
  split at made
  · cases made
  · split at made <;> cases made
    rfl

/-- A number of one unit in another one. -/
def convert (value : Double) (source target : TimeUnit) : Double :=
  value * source.width / target.width

/-- The length of an interval in milliseconds. -/
def millis (i : Interval) : Double := i.value * i.unit.width

/-- The interval in another unit. -/
def inUnit (i : Interval) (unit : TimeUnit) : Double := convert i.value i.unit unit

/-- The number of an interval as it is shown: a whole number without a point, clamped to the signed
64-bit range, and any other number with the fewest digits that read back. -/
def valueText (i : Interval) : String :=
  String.ofList (if i.value.isWhole then Decimal.integer i.value.toInt64 else i.value.text)

/-- The interval as it is shown, with the long name of its unit. -/
def text (i : Interval) : String := i.valueText ++ i.unit.name

/-- The timer duration of an interval. -/
def duration (i : Interval) : Except InvalidInterval Duration :=
  match Duration.ofSeconds? (i.millis / 1000) with
  | some d => .ok d
  | none => .error ⟨i.text, .tooLarge⟩

/-- The sum of two intervals in the unit of the first. -/
def add (i j : Interval) : Interval := ⟨(i.millis + j.millis) / i.unit.width, i.unit⟩

instance : Add Interval := ⟨add⟩

/-- The difference of two intervals in the unit of the first, unless it is negative. -/
def sub? (i j : Interval) : Option Interval :=
  let millis := i.millis - j.millis
  if millis.lt 0 then none else some ⟨millis / i.unit.width, i.unit⟩

/-- Whether two intervals have the same length. -/
def same (i j : Interval) : Bool := i.millis.same j.millis

/-- The order of two intervals by length. -/
def compare? (i j : Interval) : Option Ordering := i.millis.compare? j.millis

/-- The interval of a duration, in seconds. -/
def ofDuration (d : Duration) : Interval :=
  ⟨Double.ofNat d.seconds + Double.ofNat d.fraction / 1000000000, .second⟩

/-- The length in milliseconds after rounding to whole seconds. -/
def wireMillis (i : Interval) : Double := (i.millis / 1000).roundEven * 1000

/-- A whole number of a unit of the render service. -/
def offset (count : Double) (suffix : String) : String :=
  String.ofList (Decimal.integer count.toInt64) ++ suffix

/-- The suffix of an offset of no time at all. -/
def zeroSuffix (unit : TimeUnit) : String := unit.wireSuffix.getD "s"

/-- The offset for the render service: whole seconds in the longest unit that divides them, where
no time at all keeps the unit of the interval. -/
def wire (i : Interval) : String :=
  let millis := i.wireMillis
  if millis.same 0 then "0" ++ zeroSuffix i.unit
  else
    let inUnit (unit : TimeUnit) : Option String := do
      let suffix ← unit.wireSuffix
      let value := millis / unit.width
      if value.isWhole then some (offset value suffix) else none
    (TimeUnit.descending.findSome? inUnit).getD (offset (millis / 1000) "s")

end Interval

end Vigil
