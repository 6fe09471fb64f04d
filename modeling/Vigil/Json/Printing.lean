import Vigil.Decimal.Shortest
import Vigil.Json.Basic

/-!
# Printing JSON

The compact form of a value. Quotes, backslashes and controls are escaped, and
numbers are written with the fewest digits that read back.
-/

namespace Vigil.Json

/-- A control as its code point of four digits. -/
def unicodeEscape (c : Char) : List Char :=
  let digits := Nat.toDigits 16 c.toNat
  '\\' :: 'u' :: (List.replicate (4 - digits.length) '0' ++ digits)

/-- A character inside quotes. -/
def escape (c : Char) : List Char :=
  if c = '"' ∨ c = '\\' then ['\\', c]
  else if c.toNat < 0x20 ∨ c.toNat = 0x7f then unicodeEscape c
  else [c]

/-- A text in quotes. -/
def quote (s : String) : String := String.ofList ('"' :: (s.toList.flatMap escape ++ ['"']))

/-- A number. -/
def Number.print : Number → String
  | integer value => String.ofList (Decimal.integer value)
  | real value => String.ofList value.text

mutual

/-- A value in compact form. -/
def print : Json → String
  | null => "null"
  | bool value => if value then "true" else "false"
  | number value => value.print
  | text value => quote value
  | list items => "[" ++ printItems items ++ "]"
  | object fields => "\x7b" ++ printFields fields ++ "\x7d"

/-- Items with commas between them. -/
def printItems : List Json → String
  | [] => ""
  | [item] => print item
  | item :: rest => print item ++ "," ++ printItems rest

/-- Fields with commas between them. -/
def printFields : List (String × Json) → String
  | [] => ""
  | [(key, value)] => quote key ++ ":" ++ print value
  | (key, value) :: rest => quote key ++ ":" ++ print value ++ "," ++ printFields rest

end

end Vigil.Json
