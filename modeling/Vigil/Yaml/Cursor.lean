import Vigil.Json.Lexeme

/-!
# Cursors

A cursor is a place in a text: what is still to be read, and where it stands. The
end of a text counts as a line end wherever only that is asked.
-/

namespace Vigil.Yaml

/-- A place in a text. -/
structure Cursor where
  rest : List Char
  /-- Characters before the place. -/
  index : Nat
  /-- Lines before the place. -/
  line : Nat
  /-- Characters of the line before the place. -/
  column : Nat

/-- The character ends a line. -/
def isBreak (c : Char) : Bool :=
  c = '\n' || c = '\r' || c.toNat = 0x85 || c.toNat = 0x2028 || c.toNat = 0x2029

/-- The character is a blank within a line. -/
def isBlank (c : Char) : Bool := c = ' ' || c = '\t'

/-- The character may stand in names. -/
def inName (c : Char) : Bool := c.isAlphanum || c = '_' || c = '-'

/-- The character is a byte order mark. -/
def isMark (c : Char) : Bool := c.toNat = 0xfeff

/-- The text may hold the character. -/
def isAllowed (c : Char) : Bool :=
  let n := c.toNat
  n = 0x9 || n = 0xa || n = 0xd || (0x20 ≤ n && n ≤ 0x7e) || n = 0x85
    || (0xa0 ≤ n && n ≤ 0xd7ff) || (0xe000 ≤ n && n ≤ 0xfffd) || 0x10000 ≤ n

namespace Cursor

/-- The start of a text. -/
def start (text : List Char) : Cursor := ⟨text, 0, 0, 0⟩

/-- The next character. -/
def peek (c : Cursor) : Option Char := c.rest.head?

/-- The next character is the given one. -/
def sees (c : Cursor) (x : Char) : Bool := c.rest.head? = some x

/-- Nothing is left. -/
def atEnd (c : Cursor) : Bool := c.rest.isEmpty

/-- A blank comes next. -/
def atBlank (c : Cursor) : Bool := c.rest.head?.any isBlank

/-- A line end comes next. -/
def atBreak (c : Cursor) : Bool := c.rest.head?.any isBreak

/-- A blank, a line end or the end of the text stands some characters ahead. -/
def gapAhead (c : Cursor) (n : Nat) : Bool :=
  (c.rest.drop n).head?.all fun x => isBlank x || isBreak x

/-- A blank, a line end or the end of the text comes next. -/
def atGap (c : Cursor) : Bool := c.gapAhead 0

/-- Passes over characters of one line. -/
def skip (c : Cursor) (n : Nat) : Cursor :=
  ⟨c.rest.drop n, c.index + n, c.line, c.column + n⟩

/-- Passes over a line end. -/
def skipBreak (c : Cursor) : Cursor :=
  match c.rest with
  | '\r' :: '\n' :: rest => ⟨rest, c.index + 2, c.line + 1, 0⟩
  | _ :: rest => ⟨rest, c.index + 1, c.line + 1, 0⟩
  | [] => c

/-- The line end that comes next as the text of a value holds it. -/
def breakText (c : Cursor) : List Char :=
  match c.rest with
  | x :: _ => if x.toNat = 0x2028 ∨ x.toNat = 0x2029 then [x] else ['\n']
  | [] => []

/-- Passes over the characters of a line with a property, and gives them. -/
def takeWhile (c : Cursor) (p : Char → Bool) : List Char × Cursor :=
  let taken := c.rest.takeWhile p
  (taken, c.skip taken.length)

/-- Passes over a byte order mark that begins a line. -/
def skipMark (c : Cursor) : Cursor :=
  if c.column = 0 ∧ c.rest.head?.any isMark then c.skip 1 else c

/-- Passes over a comment, if one begins here. -/
def skipComment (c : Cursor) : Cursor :=
  if c.sees '#' then (c.takeWhile fun x => !isBreak x).2 else c

/-- The mark of a document begins the line here. -/
def atDocumentMark (c : Cursor) : Bool :=
  c.column = 0 && (['-', '-', '-'].isPrefixOf c.rest || ['.', '.', '.'].isPrefixOf c.rest)
    && c.gapAhead 3

end Cursor

end Vigil.Yaml
