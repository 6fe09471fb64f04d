import Vigil.Decimal.Shortest
import Vigil.Text.Quoted

/-!
# Value formats

How a value is shown in notifications, and which units a rule may write after a
number. Each format is a table of units from the largest to the smallest; a value
is shown in the first unit that it exceeds, and a rule's unit is the first of that
name in all tables.
-/

namespace Vigil

/-- A unit of magnitude: its name and how much one of it is. -/
structure MagnitudeUnit where
  name : String
  size : Double

/-- The way values of an alert are shown. -/
inductive ValueFormat where
  | bytes
  | bits
  | bitrate
  | short
  | seconds
  | milliseconds
  | percent
  | raw
deriving DecidableEq, Repr

namespace ValueFormat

/-- Units of bytes. -/
def byteUnits : List MagnitudeUnit :=
  [⟨"TB", 1099511627776⟩, ⟨"GB", 1073741824⟩, ⟨"MB", 1048576⟩, ⟨"KB", 1024⟩]

/-- Units of bits. -/
def bitUnits : List MagnitudeUnit :=
  [⟨"Tb", 1099511627776⟩, ⟨"Gb", 1073741824⟩, ⟨"Mb", 1048576⟩, ⟨"Kb", 1024⟩]

/-- Units of transfer rates. -/
def bitrateUnits : List MagnitudeUnit :=
  [⟨"Gbps", 1000000000⟩, ⟨"Mbps", 1000000⟩, ⟨"Kbps", 1000⟩]

/-- Units of plain counts. -/
def shortUnits : List MagnitudeUnit :=
  [⟨"Tri", 1000000000000⟩, ⟨"Bil", 1000000000⟩, ⟨"Mil", 1000000⟩, ⟨"K", 1000⟩]

/-- Units of time, in seconds. -/
def secondUnits : List MagnitudeUnit :=
  [⟨"y", 31536000⟩, ⟨"M", 2592000⟩, ⟨"w", 604800⟩, ⟨"d", 86400⟩, ⟨"h", 3600⟩, ⟨"m", 60⟩,
    ⟨"s", 1⟩, ⟨"ms", Double.ofDecimal false ⟨1, -3⟩⟩]

/-- Units of time, in milliseconds. -/
def millisecondUnits : List MagnitudeUnit :=
  [⟨"y", 31536000000⟩, ⟨"M", 2592000000⟩, ⟨"w", 604800000⟩, ⟨"d", 86400000⟩, ⟨"h", 3600000⟩,
    ⟨"m", 60000⟩, ⟨"s", 1000⟩, ⟨"ms", 1⟩]

/-- The unit of percentages. -/
def percentUnits : List MagnitudeUnit := [⟨"%", 1⟩]

/-- The units of a format, from the largest to the smallest. -/
def units : ValueFormat → List MagnitudeUnit
  | bytes => byteUnits
  | bits => bitUnits
  | bitrate => bitrateUnits
  | short => shortUnits
  | seconds => secondUnits
  | milliseconds => millisecondUnits
  | percent => percentUnits
  | raw => []

/-- The name of a format in configurations. -/
def name : ValueFormat → String
  | bytes => "bytes"
  | bits => "bits"
  | bitrate => "bps"
  | short => "short"
  | seconds => "s"
  | milliseconds => "ms"
  | percent => "percent"
  | raw => "raw"

/-- All formats. -/
def all : List ValueFormat :=
  [bytes, bits, bitrate, short, seconds, milliseconds, percent, raw]

/-- The format of a name. -/
def ofName? (text : String) : Option ValueFormat := all.find? fun f => text = f.name

/-- The refusal of a name that no format has. -/
def unknownName (text : String) : String := "unknown format " ++ Text.quoted text

/-- A format is found by its name. -/
theorem ofName?_name (f : ValueFormat) : ofName? f.name = some f := by
  cases f <;> decide

/-- Numbers from here up are not shown as integers. -/
def plainBound : Double := 1000000000000000

/-- A number without a unit: a whole number below the bound as an integer, any other number with the
fewest digits that read back. -/
def plain (value : Double) : String :=
  String.ofList
    (if value.isWhole && value.abs.lt plainBound then Decimal.integer value.toInt64 else value.text)

/-- A text with one decimal place without the zeros at its end and the point they leave. -/
def trimPlaces (text : List Char) : List Char :=
  let digits := text.reverse.dropWhile (· = '0')
  (digits.dropWhile (· = '.')).reverse

/-- The value in the first unit of the format that it exceeds. -/
def render (f : ValueFormat) (value : Double) : String :=
  match f.units.find? fun unit => unit.size.lt value with
  | none => plain value
  | some unit =>
      if unit.size.same 1 then plain value ++ unit.name
      else String.ofList (trimPlaces (value / unit.size).tenths) ++ unit.name

/-- The units that rules may write: those of all formats but milliseconds. -/
def ruleUnits : List MagnitudeUnit :=
  byteUnits ++ bitUnits ++ bitrateUnits ++ shortUnits ++ secondUnits ++ percentUnits

/-- How much one of a named unit is. -/
def factor? (unit : String) : Option Double :=
  (ruleUnits.find? fun u => u.name = unit).map (·.size)

/-- A number of a named unit in ones. -/
def scale? (value : Double) (unit : String) : Option Double :=
  (factor? unit).map (value * ·)

end ValueFormat

end Vigil
