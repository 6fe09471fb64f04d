import Vigil.Decimal.Basic
import Vigil.Url.Percent
import Vigil.Yaml.Scalar

/-!
# Tokens

The tokens of a text in YAML. Indentation becomes tokens that begin and end
blocks. Whether a node is a key is known only at the colon behind it, so the place
of such a node is kept until then, and the tokens for the key are put in there.
-/

namespace Vigil.Yaml

/-- A token. -/
inductive Token where
  | version (major minor : Nat)
  | tagHandle (handle tagPrefix : List Char)
  | documentStart
  | documentEnd
  | blockSequence
  | blockMapping
  | blockEnd
  | openList
  | closeList
  | openMap
  | closeMap
  | entry
  | comma
  | key
  | value
  | alias (name : List Char)
  | anchor (name : List Char)
  | tag (handle suffix : List Char)
  | scalar (text : List Char) (plain : Bool)
deriving DecidableEq

/-- A place at which a key may begin: its token would be put before token `number`. -/
structure KeyPlace where
  /-- Nothing but a key can stand here. -/
  required : Bool
  number : Nat
  index : Nat
  line : Nat
  column : Nat

/-- The state of the scanner. -/
structure Scanner where
  cursor : Cursor
  /-- The tokens so far, last one first. -/
  tokens : List Token
  /-- The indentation of the innermost block. -/
  indent : Int
  /-- The indentations of the blocks around it. -/
  outer : List Int
  /-- For each collection in braces or brackets, and for the blocks around them, the place of a
  key that may have begun there. -/
  keys : List (Option KeyPlace)
  /-- A key may begin here. -/
  keyAllowed : Bool

namespace Scanner

/-- The start of a text. -/
def start (text : List Char) : Scanner := ⟨.start text, [], -1, [], [none], true⟩

/-- The place is inside braces or brackets. -/
def inFlow (s : Scanner) : Bool := 1 < s.keys.length

/-- Adds a token. -/
def add (s : Scanner) (token : Token) : Scanner := { s with tokens := token :: s.tokens }

/-- Puts a token before the token of a number. -/
def insert (s : Scanner) (number : Nat) (token : Token) : Scanner :=
  let later := s.tokens.length - number
  { s with tokens := s.tokens.take later ++ token :: s.tokens.drop later }

/-- Passes over characters. -/
def skip (s : Scanner) (n : Nat) : Scanner := { s with cursor := s.cursor.skip n }

/-- Begins a block at a deeper indentation. -/
def indentTo (s : Scanner) (column : Nat) (number : Nat) (token : Token) : Scanner :=
  if s.inFlow ∨ (column : Int) ≤ s.indent then s
  else { s.insert number token with indent := column, outer := s.indent :: s.outer }

/-- Ends the blocks that are indented more than a column. -/
def dedentWithin (column : Int) : List Int → Scanner → Scanner
  | [], s => s
  | outer :: more, s =>
      if s.indent ≤ column then s
      else dedentWithin column more { s.add .blockEnd with indent := outer, outer := more }

/-- Ends the blocks that are indented more than a column, unless in braces or brackets. -/
def dedentTo (s : Scanner) (column : Int) : Scanner :=
  if s.inFlow then s else dedentWithin column s.outer s

/-- The place of a key of the innermost collection. -/
def key? (s : Scanner) : Option KeyPlace := s.keys.headD none

/-- Changes the place of a key of the innermost collection. -/
def setKey (s : Scanner) (key : Option KeyPlace) : Scanner :=
  { s with keys := key :: s.keys.tail }

/-- Gives up the place of a key, unless a key is required there. -/
def dropKey (s : Scanner) : Option Scanner :=
  if s.key?.any (·.required) then none else some (s.setKey none)

/-- Notes that a key may begin here. -/
def saveKey (s : Scanner) : Option Scanner :=
  if !s.keyAllowed then some s
  else
    let c := s.cursor
    let required := !s.inFlow && s.indent = (c.column : Int)
    s.dropKey.map fun s => s.setKey (some ⟨required, s.tokens.length, c.index, c.line, c.column⟩)

/-- The longest distance between the start of a key and its colon. -/
def keyLength : Nat := 1024

/-- The place of a key lies too far back: on another line or too many characters ago. -/
def isStale (s : Scanner) (key : KeyPlace) : Bool :=
  key.line < s.cursor.line || key.index + keyLength < s.cursor.index

/-- Gives up the places of keys that lie too far back. -/
def dropStale (s : Scanner) : Option Scanner :=
  if s.keys.any fun key => key.any fun k => k.required && s.isStale k then none
  else some { s with keys := s.keys.map fun key => key.filter fun k => !s.isStale k }

/-- Passes over blanks, comments and line ends up to the next token. A byte order mark may begin a
line. -/
def toToken : Nat → Scanner → Scanner
  | 0, s => s
  | fuel + 1, s =>
      let tabs := s.inFlow || !s.keyAllowed
      let (_, c) := s.cursor.skipMark.takeWhile fun x => x = ' ' || (tabs && x = '\t')
      let c := c.skipComment
      if c.atBreak then
        toToken fuel { s with cursor := c.skipBreak, keyAllowed := s.keyAllowed || !s.inFlow }
      else { s with cursor := c }

/-- Ends all blocks at a line that stands outside them. -/
def leaveBlocks (s : Scanner) : Option Scanner :=
  (s.dedentTo (-1)).dropKey.map fun s => { s with keyAllowed := false }

/-- The number of a version. -/
def readNumber (c : Cursor) : Option (Nat × Cursor) :=
  let (digits, next) := c.takeWhile Char.isDigit
  if digits.isEmpty ∨ 9 < digits.length then none else some (Decimal.ofDigits digits, next)

/-- A tag handle: names between exclamation marks, of which the second may be missing. -/
def readHandle (c : Cursor) : Option (List Char × Cursor) :=
  if !c.sees '!' then none
  else
    let (name, next) := (c.skip 1).takeWhile inName
    if next.sees '!' then some ('!' :: name ++ ['!'], next.skip 1) else some ('!' :: name, next)

/-- The character may stand in a tag. -/
def inTag (verbatim : Bool) (x : Char) : Bool :=
  inName x || [';', '/', '?', ':', '@', '&', '=', '+', '$', '.', '!', '~', '*', '\'', '(', ')',
    '%'].contains x || (verbatim && [',', '[', ']'].contains x)

/-- The text of a tag with its escapes resolved. -/
def readTagText (verbatim : Bool) (c : Cursor) : Option (List Char × Cursor) := do
  let (taken, next) := c.takeWhile (inTag verbatim)
  if Url.allEscapes taken then some (← Url.ofBytes? (Url.decode taken), next) else none

/-- Reads a directive from behind its percent sign. -/
def readDirective (s : Scanner) : Option Scanner := do
  let (name, c) := s.cursor.takeWhile inName
  let behind := (c.takeWhile isBlank).2
  let (token, c) ←
    if name = ['Y', 'A', 'M', 'L'] then do
      let (major, c) ← readNumber behind
      if !c.sees '.' then none
      else
        let (minor, c) ← readNumber (c.skip 1)
        some (Token.version major minor, c)
    else if name = ['T', 'A', 'G'] then do
      let (handle, c) ← readHandle behind
      if handle.getLast? ≠ some '!' ∨ !c.atBlank then none
      else
        let (text, c) ← readTagText true (c.takeWhile isBlank).2
        if text.isEmpty ∨ !c.atGap then none else some (Token.tagHandle handle text, c)
    else none
  let c := (c.takeWhile isBlank).2.skipComment
  if c.atBreak ∨ c.atEnd then some { s.add token with cursor := c.skipBreak } else none

/-- Reads the name of an anchor or an alias. -/
def readName (s : Scanner) (token : List Char → Token) : Option Scanner :=
  let (name, c) := (s.cursor.skip 1).takeWhile inName
  let closed := c.atGap || c.peek.any fun x => ['?', ':', ',', ']', '}', '%', '@', '`'].contains x
  if name.isEmpty ∨ !closed then none else some { s.add (token name) with cursor := c }

/-- Reads a tag. -/
def readTag (s : Scanner) : Option Scanner := do
  let c := s.cursor
  let (token, c) ←
    if (c.skip 1).sees '<' then do
      let (text, c) ← readTagText true (c.skip 2)
      if text.isEmpty ∨ !c.sees '>' then none else some (Token.tag [] text, c.skip 1)
    else do
      let (handle, c) ← readHandle c
      let (text, c) ← readTagText false c
      if 1 < handle.length ∧ handle.getLast? = some '!' then
        if text.isEmpty then none else some (Token.tag handle text, c)
      else
        let suffix := handle.tail ++ text
        some (if suffix.isEmpty then Token.tag [] ['!'] else Token.tag ['!'] suffix, c)
  if c.atGap ∨ (s.inFlow ∧ c.sees ',') then some { s.add token with cursor := c } else none

/-- Begins a collection in braces or brackets. -/
def openFlow (s : Scanner) (token : Token) : Option Scanner :=
  s.saveKey.map fun s =>
    { (s.add token).skip 1 with keys := none :: s.keys, keyAllowed := true }

/-- Ends a collection in braces or brackets. -/
def closeFlow (s : Scanner) (token : Token) : Option Scanner :=
  s.dropKey.map fun s =>
    { (s.add token).skip 1 with
      keys := if s.inFlow then s.keys.tail else s.keys
      keyAllowed := false }

/-- Begins a block here, unless in braces or brackets; only where a key may begin. -/
def openBlock (s : Scanner) (token : Token) : Option Scanner :=
  if s.inFlow then some s
  else if s.keyAllowed then some (s.indentTo s.cursor.column s.tokens.length token)
  else none

/-- An entry of a block sequence. -/
def blockEntry (s : Scanner) : Option Scanner := do
  let s ← (← s.openBlock .blockSequence).dropKey
  some { (s.add .entry).skip 1 with keyAllowed := true }

/-- The mark of a key. -/
def keyMark (s : Scanner) : Option Scanner := do
  let s ← (← s.openBlock .blockMapping).dropKey
  some { (s.add .key).skip 1 with keyAllowed := !s.inFlow }

/-- The mark of a value; the node before it becomes a key if it can be one. -/
def valueMark (s : Scanner) : Option Scanner :=
  match s.key? with
  | some key =>
      let s := (s.insert key.number .key).indentTo key.column key.number .blockMapping
      some { ((s.setKey none).add .value).skip 1 with keyAllowed := false }
  | none => do
      let s ← s.openBlock .blockMapping
      some { (s.add .value).skip 1 with keyAllowed := !s.inFlow }

/-- Reads a node of one token, which may be a key. -/
def readNode (s : Scanner) (read : Scanner → Option Scanner) : Option Scanner := do
  read { ← s.saveKey with keyAllowed := false }

/-- Reads a block scalar. -/
def blockScalar (s : Scanner) (literal : Bool) : Option Scanner := do
  let s ← s.dropKey
  let (text, c) ← readBlock literal s.indent (s.cursor.skip 1)
  some { s.add (.scalar text false) with cursor := c, keyAllowed := true }

/-- Reads a quoted scalar. -/
def quotedScalar (double : Bool) (s : Scanner) : Option Scanner := do
  let c := s.cursor.skip 1
  let (text, c) ← readQuoted double (c.rest.length + 1) [] c
  some { s.add (.scalar text false) with cursor := c }

/-- Reads a plain scalar; a key may begin on the line behind it. -/
def plainScalar (s : Scanner) : Option Scanner := do
  let c := s.cursor
  let (text, broken, c) ← readPlain s.inFlow (s.indent + 1).toNat (c.rest.length + 1) [] Gap.none c
  some { s.add (.scalar text true) with cursor := c, keyAllowed := s.keyAllowed || broken }

/-- The character begins a plain scalar, where `gap` tells that a blank follows it. -/
def opensPlain (inFlow gap : Bool) (x : Char) : Bool :=
  if isBlank x then false
  else if x = '-' then !gap
  else if x = '?' ∨ x = ':' then !inFlow && !gap
  else !isFlowMark x && !(['#', '&', '*', '!', '|', '>', '\'', '"', '%', '@', '`'].contains x)

/-- Reads the token that begins with a character. -/
def readFirst (s : Scanner) (x : Char) : Option Scanner :=
  let gap := s.cursor.gapAhead 1
  if x = '[' then s.openFlow .openList
  else if x = '{' then s.openFlow .openMap
  else if x = ']' then s.closeFlow .closeList
  else if x = '}' then s.closeFlow .closeMap
  else if x = ',' then s.dropKey.map fun s => { (s.add .comma).skip 1 with keyAllowed := true }
  else if x = '-' ∧ gap then s.blockEntry
  else if x = '?' ∧ (s.inFlow ∨ gap) then s.keyMark
  else if x = ':' ∧ (s.inFlow ∨ gap) then s.valueMark
  else if x = '*' then s.readNode fun s => readName s .alias
  else if x = '&' then s.readNode fun s => readName s .anchor
  else if x = '!' then s.readNode readTag
  else if x = '|' ∧ !s.inFlow then s.blockScalar true
  else if x = '>' ∧ !s.inFlow then s.blockScalar false
  else if x = '\'' then s.readNode (quotedScalar false)
  else if x = '"' then s.readNode (quotedScalar true)
  else if opensPlain s.inFlow gap x then s.readNode plainScalar
  else none

/-- Reads all tokens. -/
def run : Nat → Scanner → Option (List Token)
  | 0, _ => none
  | fuel + 1, s => do
      let s ← (toToken (s.cursor.rest.length + 1) s).dropStale
      let s := s.dedentTo s.cursor.column
      match s.cursor.rest with
      | [] => (← (s.dedentTo (-1)).dropKey).tokens.reverse
      | x :: _ =>
          let next ←
            if x = '%' ∧ s.cursor.column = 0 then (← s.leaveBlocks).skip 1 |>.readDirective
            else if s.cursor.atDocumentMark then
              s.leaveBlocks.map fun s =>
                (s.add (if x = '-' then .documentStart else .documentEnd)).skip 3
            else s.readFirst x
          run fuel next

end Scanner

/-- The tokens of a text. A byte order mark at its start is no part of it. -/
def scan (text : List Char) : Option (List Token) :=
  let body := if text.head?.any isMark then text.tail else text
  if text.all isAllowed then Scanner.run (body.length + 1) (.start body) else none

end Vigil.Yaml
