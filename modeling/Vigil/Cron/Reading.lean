import Vigil.Cron.Basic
import Vigil.Decimal.Basic

/-!
# Reading cron expressions

An expression is a sequence of lists, one for each part and in a fixed order; the
year may be left out. Blanks are allowed around every number, name and sign, and
none is needed between two lists.

```
list  = item ("," item)*
item  = base "/" number | base | name
base  = "*" | "?" | number "-" number | number | name "-" name
```

A question mark stands for all days, of the month or of the week.
-/

namespace Vigil.Cron

/-- The values that an item starts from. -/
inductive Base where
  | all
  | range (first last : Nat)
  | number (value : Nat)
  | names (first last : String)
deriving DecidableEq

/-- An item of a list. -/
inductive Item where
  | plain (base : Base)
  | stepped (base : Base) (step : Nat)
  | name (name : String)
deriving DecidableEq

/-- A reader takes its part from the front of a text. -/
abbrev Reader (α : Type) := List Char → Option (α × List Char)

/-- The text without the blanks in front. -/
def dropBlanks (text : List Char) : List Char :=
  text.dropWhile fun c => [' ', '\t', '\r', '\n'].contains c

/-- Numbers of an expression lie below this bound. -/
def numberBound : Nat := 4294967296

/-- A number with blanks around it. -/
def readNumber : Reader Nat := fun text =>
  let body := dropBlanks text
  let digits := body.takeWhile Char.isDigit
  let value := Decimal.ofDigits digits
  if digits.isEmpty ∨ numberBound ≤ value then none
  else some (value, dropBlanks (body.dropWhile Char.isDigit))

/-- A name with blanks around it, in lower case. -/
def readName : Reader String := fun text =>
  let body := dropBlanks text
  let letters := body.takeWhile Char.isAlpha
  if letters.isEmpty then none
  else some (String.ofList (letters.map Char.toLower), dropBlanks (body.dropWhile Char.isAlpha))

/-- A sign right at the front. -/
def readSign (sign : Char) : Reader Unit
  | c :: rest => if c = sign then some ((), rest) else none
  | [] => none

/-- A sign with blanks around it that stands for all values. -/
def readAll (sign : Char) : Reader Base := fun text => do
  let ((), rest) ← readSign sign (dropBlanks text)
  some (.all, dropBlanks rest)

/-- Two numbers with a minus sign between them. -/
def readRange : Reader Base := fun text => do
  let (first, rest) ← readNumber text
  let ((), rest) ← readSign '-' rest
  let (last, rest) ← readNumber rest
  some (.range first last, rest)

/-- Two names with a minus sign between them. -/
def readNames : Reader Base := fun text => do
  let (first, rest) ← readName text
  let ((), rest) ← readSign '-' rest
  let (last, rest) ← readName rest
  some (.names first last, rest)

/-- The base of an item; the first form that fits is taken. -/
def readBase (part : Part) : Reader Base := fun text =>
  (if part = .day ∨ part = .weekday then readAll '?' text else none)
    <|> readAll '*' text
    <|> readRange text
    <|> (readNumber text).map (fun found => (.number found.1, found.2))
    <|> readNames text

/-- A base with a step. -/
def readStepped (part : Part) : Reader Item := fun text => do
  let (base, rest) ← readBase part text
  let ((), rest) ← readSign '/' rest
  let (step, rest) ← readNumber rest
  some (.stepped base step, rest)

/-- An item of a list; the first form that fits is taken. -/
def readItem (part : Part) : Reader Item := fun text =>
  readStepped part text
    <|> (readBase part text).map (fun found => (.plain found.1, found.2))
    <|> (readName text).map (fun found => (.name found.1, found.2))

/-- The items behind commas, at most `count` of them. -/
def readMore (part : Part) : Nat → Reader (List Item)
  | 0, text => some ([], text)
  | count + 1, text =>
      match (readSign ',' text).bind fun found => readItem part found.2 with
      | some (item, rest) =>
          (readMore part count rest).map fun found => (item :: found.1, found.2)
      | none => some ([], text)

/-- A list of items. -/
def readList (part : Part) : Reader (List Item) := fun text => do
  let (item, rest) ← readItem part (dropBlanks text)
  let (items, rest) ← readMore part rest.length rest
  some (item :: items, dropBlanks rest)

/-- The names of the months, from the first on. -/
def monthNames : List (List String) := [
  ["jan", "january"], ["feb", "february"], ["mar", "march"], ["apr", "april"], ["may"],
  ["jun", "june"], ["jul", "july"], ["aug", "august"], ["sep", "september"],
  ["oct", "october"], ["nov", "november"], ["dec", "december"]]

/-- The names of the days of the week, from Sunday on. -/
def weekdayNames : List (List String) := [
  ["sun", "sunday"], ["mon", "monday"], ["tue", "tues", "tuesday"], ["wed", "wednesday"],
  ["thu", "thurs", "thursday"], ["fri", "friday"], ["sat", "saturday"]]

/-- The value of a name of a part. -/
def Part.named? (part : Part) (name : String) : Option Nat :=
  let names := match part with
    | .month => monthNames
    | .weekday => weekdayNames
    | _ => []
  (names.findIdx? (·.contains name)).map (· + 1)

/-- The values from one to another, if both are values of the part and in order. -/
def Part.between? (part : Part) (first last : Nat) : Option (List Nat) :=
  if part.admits first ∧ part.admits last ∧ first ≤ last then
    some (List.range' first (last + 1 - first))
  else none

/-- The values of a base; a number alone is not checked. -/
def Base.values? (part : Part) : Base → Option (List Nat)
  | all => some part.all
  | range first last => part.between? first last
  | number value => some [value]
  | names first last => do part.between? (← part.named? first) (← part.named? last)

/-- Every value whose place is a multiple of the step. -/
def everyNth (step : Nat) (values : List Nat) : List Nat :=
  (values.zipIdx.filter fun entry => entry.2 % step = 0).map (·.1)

/-- The values of an item; a number with a step stands for all values from it on. -/
def Item.values? (part : Part) : Item → Option (List Nat)
  | plain base => base.values? part
  | name word => (part.named? word).map ([·])
  | stepped base step => do
      if step = 0 ∨ part.greatest < step then none
      else
        let values ← match base with
          | .number first => part.between? first part.greatest
          | base => base.values? part
        some (everyNth step values)

/-- The set of values of a list of items, if each is a value of the part. -/
def Part.values? (part : Part) (items : List Item) : Option (List Nat) := do
  let values := (← items.mapM (Item.values? part)).flatten
  if values.all part.admits then some (part.all.filter fun value => values.contains value) else none

/-- The set of values of a part. -/
def readPart (part : Part) : Reader (List Nat) := fun text => do
  let (items, rest) ← readList part text
  some (← part.values? items, rest)

/-- Reads an expression of six or seven parts. -/
def read (text : List Char) : Option Cron := do
  let (seconds, text) ← readPart .second text
  let (minutes, text) ← readPart .minute text
  let (hours, text) ← readPart .hour text
  let (days, text) ← readPart .day text
  let (months, text) ← readPart .month text
  let (weekdays, text) ← readPart .weekday text
  let (years, text) := (readPart .year text).getD (Part.year.all, text)
  if text.isEmpty then some ⟨seconds, minutes, hours, days, months, weekdays, years⟩ else none

end Vigil.Cron
