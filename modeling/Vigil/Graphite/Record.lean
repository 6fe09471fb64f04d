import Vigil.Decimal.Basic
import Vigil.Text.Blank
import Vigil.Text.Quoted
import Vigil.Text.Split

/-!
# Records of the render service

The raw format of the render service has one line for each series: the target,
the start, the end and the step, then a bar, then the values. The target may hold
commas, so the metadata is split from its end. Tokens that are no numbers are
gaps and are left out.
-/

namespace Vigil.Graphite

/-- How the values of a series become one value. -/
inductive Reduction where
  | average
  | lastValue
  | sum
  | minimum
  | maximum
deriving DecidableEq, Repr

namespace Reduction

/-- The name of a reduction in configurations. -/
def name : Reduction → String
  | average => "average"
  | lastValue => "last_value"
  | sum => "sum"
  | minimum => "minimum"
  | maximum => "maximum"

/-- All reductions. -/
def all : List Reduction := [average, lastValue, sum, minimum, maximum]

/-- The reduction of a name. -/
def ofName? (text : String) : Option Reduction := all.find? fun r => text = r.name

/-- The refusal of a name that no reduction has. -/
def unknownName (text : String) : String := "unknown method " ++ Text.quoted text

/-- A reduction is found by its name. -/
theorem ofName?_name (r : Reduction) : ofName? r.name = some r := by
  cases r <;> decide

/-- The one value of a run of values; an empty run has none. -/
def apply (r : Reduction) (values : List Double) : Option Double :=
  if values.isEmpty then none
  else match r with
    | average => some (Double.sum values / Double.ofNat values.length)
    | lastValue => values.getLast?
    | sum => some (Double.sum values)
    | minimum => values.tail.foldl (fun least x => least.map (Double.min · x)) values.head?
    | maximum => values.tail.foldl (fun most x => most.map (Double.max · x)) values.head?

/-- No reduction makes a value of nothing. -/
theorem apply_nil (r : Reduction) : r.apply [] = none := rfl

end Reduction

/-- How gaps that are written as a number are treated. -/
structure GapPolicy where
  /-- The number that stands for a gap. -/
  gapValue : Double
  /-- Whether values equal to that number are left out. -/
  ignoreGaps : Bool
deriving DecidableEq

/-- The policy keeps a value. -/
def GapPolicy.keeps (policy : GapPolicy) (value : Double) : Bool :=
  !(policy.ignoreGaps && value.same policy.gapValue)

/-- A decoded series. -/
structure Record where
  target : String
  start : Int
  stop : Int
  step : Int
  values : List Double
deriving DecidableEq

/-- Why a line is not a record. -/
inductive RecordFault where
  | separatorMissing (preview : String)
  | metadata (preview : String)
deriving DecidableEq, Repr

/-- The message of a refused line. -/
def RecordFault.message : RecordFault → String
  | separatorMissing preview =>
      "Unable to parse graphite record: missing '|' in " ++ Text.quoted preview
  | metadata preview => "Unable to parse graphite record: bad metadata in " ++ Text.quoted preview

/-- The length of the input that messages show. -/
def previewLength : Nat := 30

/-- The input as messages show it, cut to the preview length. -/
def preview (line : List Char) : String :=
  if line.length ≤ previewLength then String.ofList line
  else String.ofList (line.take previewLength) ++ ".."

/-- Reads an integer of the signed 64-bit range: an optional sign and digits. -/
def readInteger (text : List Char) : Option Int :=
  let (negative, digits) := match text with
    | '-' :: rest => (true, rest)
    | '+' :: rest => (false, rest)
    | _ => (false, text)
  if digits.isEmpty ∨ digits.any (fun c => !c.isDigit) then none
  else
    let size : Int := Decimal.ofDigits digits
    let value := if negative then -size else size
    if -9223372036854775808 ≤ value ∧ value ≤ 9223372036854775807 then some value else none

namespace Record

/-- The target, the start, the end and the step of the metadata, split from its end. -/
def metadata? (text : List Char) : Option (List Char × List Char × List Char × List Char) := do
  let (text, step) ← Text.splitLast ',' text
  let (text, stop) ← Text.splitLast ',' text
  let (target, start) ← Text.splitLast ',' text
  return (target, start, stop, step)

/-- The values of the data part in order, without gaps. -/
def readValues (policy : GapPolicy) (data : List Char) : List Double :=
  ((Text.splitAt ',' (Text.trimEnd data)).filterMap fun token => Double.read (Text.trim token)).filter
    policy.keeps

/-- The record of a line, when its metadata has four parts and three of them are integers. -/
def ofParts? (policy : GapPolicy) (head data : List Char) : Option Record := do
  let (target, start, stop, step) ← metadata? head
  let start ← readInteger (Text.trim start)
  let stop ← readInteger (Text.trim stop)
  let step ← readInteger (Text.trim step)
  return ⟨String.ofList target, start, stop, step, readValues policy data⟩

/-- Reads one line. -/
def read (policy : GapPolicy) (line : List Char) : Except RecordFault Record :=
  match Text.splitFirst '|' line with
  | none => .error (.separatorMissing (preview line))
  | some (head, data) =>
      match ofParts? policy head data with
      | none => .error (.metadata (preview line))
      | some record => .ok record

/-- Reads every line of a body that is not blank; the first refused line decides. -/
def readAll (policy : GapPolicy) (body : List Char) : Except RecordFault (List Record) :=
  ((Text.lines body).filter fun line => !(Text.trim line).isEmpty).mapM (read policy)

end Record

end Vigil.Graphite
