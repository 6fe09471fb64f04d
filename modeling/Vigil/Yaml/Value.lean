import Vigil.Decimal.Basic
import Vigil.Json.Basic
import Vigil.Yaml.Node

/-!
# Values

The value of a document as a configuration value. A plain scalar is null, a
boolean or a number if it is written like one, and a text otherwise. The keys of a
mapping are the texts of their scalars, whatever those are like.
-/

namespace Vigil.Yaml

/-- The scalar is written like a null. -/
def isNull (text : String) : Bool := ["null", "Null", "NULL", "~"].contains text

/-- The boolean of a scalar. -/
def bool? (text : String) : Option Bool :=
  if ["true", "True", "TRUE"].contains text then some true
  else if ["false", "False", "FALSE"].contains text then some false
  else none

/-- Digits with a zero in front, which are a text. -/
def hasLeadingZero (text : List Char) : Bool :=
  let digits := if text.head? = some '-' ∨ text.head? = some '+' then text.tail else text
  1 < digits.length && digits.head? = some '0' && digits.all Char.isDigit

/-- The number of digits in a base. -/
def natural? (base : Nat) (digits : List Char) : Option Nat :=
  if digits.isEmpty then none
  else digits.foldlM (fun n d => do
    let v ← Json.Lexeme.hexValue? d
    if v < base then some (n * base + v) else none) 0

/-- The number of a scalar without a minus sign: in the base that its beginning tells, or decimal. -/
def unsigned? (text : List Char) : Option Nat :=
  let body := if text.head? = some '+' then text.tail else text
  match body with
  | '0' :: 'x' :: digits => natural? 16 digits
  | '0' :: 'o' :: digits => natural? 8 digits
  | '0' :: 'b' :: digits => natural? 2 digits
  | _ => if hasLeadingZero text then none else natural? 10 body

/-- The integer of a scalar. -/
def integer? (text : List Char) : Option Int :=
  match text with
  | '-' :: '0' :: 'x' :: digits => (natural? 16 digits).map fun n => -(n : Int)
  | '-' :: '0' :: 'o' :: digits => (natural? 8 digits).map fun n => -(n : Int)
  | '-' :: '0' :: 'b' :: digits => (natural? 2 digits).map fun n => -(n : Int)
  | '-' :: digits =>
      if hasLeadingZero text then none else (natural? 10 digits).map fun n => -(n : Int)
  | _ => (unsigned? text).map fun n => (n : Int)

/-- An integer fits into 64 bits, with or without a sign. -/
def fitsWord (n : Int) : Bool := -9223372036854775808 ≤ n && n < 18446744073709551616

/-- An integer fits into 128 bits, with or without a sign; such a scalar is never a real. -/
def fitsDoubleWord (n : Int) : Bool :=
  -170141183460469231731687303715884105728 ≤ n && n < 340282366920938463463374607431768211456

/-- The finite number of a scalar, or the value that stands for one that is not finite. -/
def real? (text : List Char) : Option Json :=
  let body := if text.head? = some '+' then text.tail else text
  let special := [".inf", ".Inf", ".INF"].contains (String.ofList body)
    || ["-.inf", "-.Inf", "-.INF", ".nan", ".NaN", ".NAN"].contains (String.ofList text)
  if text.head? = some '+' ∧ (body.head? = some '+' ∨ body.head? = some '-') then none
  else if special then some .null
  else (Double.read body).bind fun x => if x.isFinite then some (.number (.real x)) else none

/-- The value of a plain scalar; an integer beyond 64 bits has none. -/
def plainValue (text : List Char) : Option Json :=
  let word := String.ofList text
  if text.isEmpty || isNull word then some .null
  else
    match bool? word with
    | some b => some (.bool b)
    | none =>
        match (integer? text).filter fitsDoubleWord with
        | some n => if fitsWord n then some (.number (.integer n)) else none
        | none =>
            match if hasLeadingZero text then none else real? text with
            | some value => some value
            | none => some (.text word)

/-- The tag of a core type. -/
def coreTag (name : String) : List Char := ("tag:yaml.org,2002:" ++ name).toList

/-- The value of a scalar with a tag; only the tags of core types are known. -/
def taggedValue (tag text : List Char) : Option Json :=
  let word := String.ofList text
  if tag.head? = some '!' then none
  else if tag = coreTag "bool" then (bool? word).map .bool
  else if tag = coreTag "int" then do
    let n ← integer? text
    if fitsWord n then some (.number (.integer n)) else none
  else if tag = coreTag "float" then real? text
  else if tag = coreTag "null" then if isNull word then some .null else none
  else some (.text word)

/-- The value of a scalar. -/
def scalarValue (text : List Char) (plain : Bool) (tag : List Char) : Option Json :=
  if !tag.isEmpty then taggedValue tag text
  else if plain then plainValue text
  else some (.text (String.ofList text))

mutual

/-- The number of steps in which a document is read: one for a scalar or an alias, two more than
its parts for a collection. -/
def steps : Node → Nat
  | .scalar _ _ _ => 1
  | .alias _ => 1
  | .list _ items => 2 + stepsOfItems items
  | .map _ entries => 2 + stepsOfEntries entries

/-- The steps of items. -/
def stepsOfItems : List Node → Nat
  | [] => 0
  | item :: rest => steps item + stepsOfItems rest

/-- The steps of entries. -/
def stepsOfEntries : List (Node × Node) → Nat
  | [] => 0
  | (key, value) :: rest => steps key + steps value + stepsOfEntries rest

end

/-- A computation that counts the aliases it follows, up to a limit. -/
abbrev Counting (α : Type) := Nat → Option (α × Nat)

/-- The node that an alias stands for, counted against the number of aliases still allowed. -/
def followAlias (node : Node) : Counting Node := fun left =>
  match node with
  | .alias target => if left = 0 then none else some (target, left - 1)
  | _ => some (node, left)

/-- Applies a computation to every element of a list. -/
def forEach (f : α → Counting β) : List α → Counting (List β)
  | [], left => some ([], left)
  | x :: rest, left => do
      let (y, left) ← f x left
      let (ys, left) ← forEach f rest left
      some (y :: ys, left)

/-- The key of a node. -/
def keyOf (node : Node) : Counting String := fun left => do
  match ← followAlias node left with
  | (.scalar text _ _, left) => some (String.ofList text, left)
  | _ => none

/-- The value of a node whose collections are nested no deeper than a bound. -/
def valueOf : Nat → Node → Counting Json
  | 0, node, left => do
      match ← followAlias node left with
      | (.scalar text plain tag, left) => some (← scalarValue text plain tag, left)
      | _ => none
  | depth + 1, node, left => do
      match ← followAlias node left with
      | (.scalar text plain tag, left) => some (← scalarValue text plain tag, left)
      | (.list tag items, left) =>
          if tag.head? = some '!' then none
          else
            let (values, left) ← forEach (valueOf depth) items left
            some (.list values, left)
      | (.map tag entries, left) =>
          if tag.head? = some '!' then none
          else
            let (fields, left) ← forEach (fun entry left => do
              let (key, left) ← keyOf entry.1 left
              let (value, left) ← valueOf depth entry.2 left
              some ((key, value), left)) entries left
            some (.object (Json.Fields.ofList fields), left)
      | (.alias _, _) => none

/-- The number of collections that may be open at once. -/
def depth : Nat := 128

/-- The number of aliases that may be followed for each step of a document. -/
def aliasesPerStep : Nat := 100

/-- Reads the value of a text with one document; a text without one is null. -/
def read (text : List Char) : Option Json := do
  match ← Document.ofTokens (← scan text) with
  | none => some .null
  | some root => (valueOf depth root (steps root * aliasesPerStep)).map (·.1)

end Vigil.Yaml
