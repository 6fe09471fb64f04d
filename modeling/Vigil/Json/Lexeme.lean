import Vigil.Json.Number

/-!
# Lexemes of JSON

A JSON text is read into lexemes: punctuation, words, texts and numbers. Texts are
decoded on the way: escapes are replaced, and a pair of escapes for the two halves
of a code point becomes that code point. Controls and lone halves are refused.
-/

namespace Vigil.Json

/-- A lexeme of a JSON text. -/
inductive Lexeme where
  | openList
  | closeList
  | openObject
  | closeObject
  | comma
  | colon
  | scalar (value : Json)
  | text (value : String)

namespace Lexeme

/-- The character is white space between lexemes. -/
def isSpace (c : Char) : Bool := c = ' ' || c = '\t' || c = '\n' || c = '\r'

/-- The value of a hexadecimal digit. -/
def hexValue? (c : Char) : Option Nat :=
  if c.isDigit then some (c.toNat - '0'.toNat)
  else if 'a' ≤ c ∧ c ≤ 'f' then some (c.toNat - 'a'.toNat + 10)
  else if 'A' ≤ c ∧ c ≤ 'F' then some (c.toNat - 'A'.toNat + 10)
  else none

/-- The number of four hexadecimal digits. -/
def hexWord? (a b c d : Char) : Option Nat := do
  let a ← hexValue? a
  let b ← hexValue? b
  let c ← hexValue? c
  let d ← hexValue? d
  return ((a * 16 + b) * 16 + c) * 16 + d

/-- The unit is the first half of a code point. -/
def isHighHalf (unit : Nat) : Bool := 0xd800 ≤ unit && unit < 0xdc00

/-- The unit is the second half of a code point. -/
def isLowHalf (unit : Nat) : Bool := 0xdc00 ≤ unit && unit < 0xe000

/-- The character of two halves. -/
def joinHalves (high low : Nat) : Char :=
  Char.ofNat (0x10000 + (high - 0xd800) * 0x400 + (low - 0xdc00))

/-- The character of a one-letter escape. -/
def escaped? (c : Char) : Option Char :=
  match c with
  | '"' => some '"'
  | '\\' => some '\\'
  | '/' => some '/'
  | 'b' => some '\x08'
  | 'f' => some '\x0c'
  | 'n' => some '\n'
  | 'r' => some '\r'
  | 't' => some '\t'
  | _ => none

/-- Decodes a text after its opening quote; returns its characters and the text after it. -/
def readText : List Char → Option (List Char × List Char)
  | [] => none
  | '"' :: rest => some ([], rest)
  | '\\' :: 'u' :: a :: b :: c :: d :: '\\' :: 'u' :: e :: f :: g :: h :: rest =>
      match hexWord? a b c d with
      | none => none
      | some unit =>
          if isHighHalf unit then
            match hexWord? e f g h with
            | none => none
            | some low =>
                if isLowHalf low then
                  (readText rest).map fun parts => (joinHalves unit low :: parts.1, parts.2)
                else none
          else if isLowHalf unit then none
          else (readText ('\\' :: 'u' :: e :: f :: g :: h :: rest)).map fun parts =>
            (Char.ofNat unit :: parts.1, parts.2)
  | '\\' :: 'u' :: a :: b :: c :: d :: rest =>
      match hexWord? a b c d with
      | none => none
      | some unit =>
          if isHighHalf unit || isLowHalf unit then none
          else (readText rest).map fun parts => (Char.ofNat unit :: parts.1, parts.2)
  | '\\' :: c :: rest =>
      match escaped? c with
      | none => none
      | some plain => (readText rest).map fun parts => (plain :: parts.1, parts.2)
  | c :: rest =>
      if c = '\\' ∨ c.toNat < 0x20 then none
      else (readText rest).map fun parts => (c :: parts.1, parts.2)

/-- The text after a keyword. -/
def dropWord? (word : List Char) (text : List Char) : Option (List Char) :=
  if word.isPrefixOf text then some (text.drop word.length) else none

/-- The lexeme that a character opens, and the text after it. -/
def first (c : Char) (rest : List Char) : Option (Lexeme × List Char) :=
  match c with
  | '[' => some (.openList, rest)
  | ']' => some (.closeList, rest)
  | '{' => some (.openObject, rest)
  | '}' => some (.closeObject, rest)
  | ',' => some (.comma, rest)
  | ':' => some (.colon, rest)
  | '"' => (readText rest).map fun parts => (.text (String.ofList parts.1), parts.2)
  | 'n' => (dropWord? ['u', 'l', 'l'] rest).map fun more => (.scalar .null, more)
  | 't' => (dropWord? ['r', 'u', 'e'] rest).map fun more => (.scalar (.bool true), more)
  | 'f' => (dropWord? ['a', 'l', 's', 'e'] rest).map fun more => (.scalar (.bool false), more)
  | _ => (Number.read (c :: rest)).map fun parts => (.scalar (.number parts.1), parts.2)

/-- The lexemes of a text, read with at most `fuel` steps. -/
def scanWithin : Nat → List Char → Option (List Lexeme)
  | 0, _ => none
  | _ + 1, [] => some []
  | fuel + 1, c :: rest =>
      if isSpace c then scanWithin fuel rest
      else do
        let (lexeme, more) ← first c rest
        let lexemes ← scanWithin fuel more
        return lexeme :: lexemes

/-- The lexemes of a text; every step takes a character at least. -/
def scan (text : List Char) : Option (List Lexeme) := scanWithin (text.length + 1) text

end Lexeme

end Vigil.Json
