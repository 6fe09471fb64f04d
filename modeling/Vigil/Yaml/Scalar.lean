import Vigil.Yaml.Cursor

/-!
# Scalars in a text

The texts of plain, quoted and block scalars. Line ends inside a plain or quoted
scalar are folded: one becomes a space, and of more the first one is dropped.
-/

namespace Vigil.Yaml

/-- Blanks and line ends that were passed over. -/
structure Gap where
  /-- The blanks, while no line has ended. -/
  blanks : List Char
  /-- A line has ended. -/
  broken : Bool
  /-- The first line end. -/
  first : List Char
  /-- The other line ends. -/
  others : List Char

namespace Gap

/-- Nothing was passed over. -/
def none : Gap := ⟨[], false, [], []⟩

/-- The line ended by an escape, which leaves nothing in the text. -/
def escaped : Gap := ⟨[], true, [], []⟩

/-- What a gap leaves in the text. -/
def text (gap : Gap) : List Char :=
  if !gap.broken then gap.blanks
  else if gap.first = ['\n'] then if gap.others.isEmpty then [' '] else gap.others
  else gap.first ++ gap.others

/-- The gap with a blank more. -/
def addBlank (gap : Gap) (c : Char) : Gap :=
  if gap.broken then gap else { gap with blanks := gap.blanks ++ [c] }

/-- The gap with a line end more. -/
def addBreak (gap : Gap) (text : List Char) : Gap :=
  if gap.broken then { gap with others := gap.others ++ text } else ⟨[], true, text, []⟩

end Gap

/-- Passes over blanks and line ends. In front of `margin`, a line must not have a tab. -/
def readGap (margin : Nat) : Nat → Gap → Cursor → Option (Gap × Cursor)
  | 0, gap, c => some (gap, c)
  | fuel + 1, gap, c =>
      match c.peek with
      | none => some (gap, c)
      | some x =>
          if isBlank x then
            if gap.broken ∧ c.column < margin ∧ x = '\t' then none
            else readGap margin fuel (gap.addBlank x) (c.skip 1)
          else if isBreak x then readGap margin fuel (gap.addBreak c.breakText) c.skipBreak
          else some (gap, c)

/-- Passes over all blanks and line ends from here. -/
def readGapFrom (margin : Nat) (gap : Gap) (c : Cursor) : Option (Gap × Cursor) :=
  readGap margin c.rest.length gap c

/-! ## Plain scalars -/

/-- The character begins or ends a collection in braces or brackets, or parts its entries. -/
def isFlowMark (c : Char) : Bool := [',', '[', ']', '{', '}'].contains c

/-- The run of characters of a plain scalar up to a gap or its end. A colon right before a mark of
a collection has no place in one. -/
def readPlainRun (inFlow : Bool) : List Char → Option (List Char)
  | [] => some []
  | x :: rest =>
      if isBlank x || isBreak x then some []
      else if x = ':' ∧ inFlow ∧ rest.head?.any (fun y => isFlowMark y || y = '?') then none
      else if x = ':' ∧ rest.head?.all (fun y => isBlank y || isBreak y) then some []
      else if inFlow && isFlowMark x then some []
      else (readPlainRun inFlow rest).map (x :: ·)

/-- Reads a plain scalar from a place on; also whether a line ended behind it. -/
def readPlain (inFlow : Bool) (margin : Nat) : Nat → List Char → Gap → Cursor →
    Option (List Char × Bool × Cursor)
  | 0, done, gap, c => some (done, gap.broken, c)
  | fuel + 1, done, gap, c =>
      if c.atDocumentMark || c.sees '#' then some (done, gap.broken, c)
      else do
        let run ← readPlainRun inFlow c.rest
        if run.isEmpty then some (done, gap.broken, c)
        else
          let text := done ++ gap.text ++ run
          let behind := c.skip run.length
          if !(behind.atBlank || behind.atBreak) then some (text, false, behind)
          else
            let (gap, next) ← readGapFrom margin Gap.none behind
            if !inFlow && next.column < margin then some (text, gap.broken, next)
            else readPlain inFlow margin fuel text gap next

/-! ## Quoted scalars -/

/-- The character that an escape of one letter stands for. -/
def escaped? (c : Char) : Option Char :=
  match c with
  | '0' => some '\x00'
  | 'a' => some '\x07'
  | 'b' => some '\x08'
  | 't' => some '\t'
  | '\t' => some '\t'
  | 'n' => some '\n'
  | 'v' => some '\x0b'
  | 'f' => some '\x0c'
  | 'r' => some '\r'
  | 'e' => some '\x1b'
  | ' ' => some ' '
  | '"' => some '"'
  | '/' => some '/'
  | '\\' => some '\\'
  | 'N' => some (Char.ofNat 0x85)
  | '_' => some (Char.ofNat 0xa0)
  | 'L' => some (Char.ofNat 0x2028)
  | 'P' => some (Char.ofNat 0x2029)
  | _ => none

/-- The number of digits of an escape by code point. -/
def escapeWidth? (c : Char) : Option Nat :=
  match c with
  | 'x' => some 2
  | 'u' => some 4
  | 'U' => some 8
  | _ => none

/-- The character of an escape, and how many characters it takes behind the backslash. -/
def readEscape (text : List Char) : Option (Char × Nat) := do
  let letter ← text.head?
  match escapeWidth? letter with
  | none => (escaped? letter).map fun c => (c, 1)
  | some width =>
      let digits := (text.drop 1).take width
      if digits.length < width then none
      else
        let value ← digits.foldlM (fun n d => (Json.Lexeme.hexValue? d).map (n * 16 + ·)) 0
        if value.isValidChar then some (Char.ofNat value, 1 + width) else none

/-- What ends a run of characters in quotes. -/
inductive RunEnd where
  | quote
  | gap
  | lineEscape

/-- The run of characters in quotes up to a gap or the closing quote, and how long it was. -/
def readQuotedRun (double : Bool) : Nat → List Char → Option (List Char × Nat × RunEnd)
  | 0, _ => none
  | fuel + 1, text =>
      let more (c : Char) (width : Nat) : Option (List Char × Nat × RunEnd) :=
        (readQuotedRun double fuel (text.drop width)).map fun r => (c :: r.1, r.2.1 + width, r.2.2)
      match text with
      | [] => none
      | x :: rest =>
          if isBlank x || isBreak x then some ([], 0, .gap)
          else if double then
            if x = '"' then some ([], 0, .quote)
            else if x = '\\' then
              if rest.head?.any isBreak then some ([], 1, .lineEscape)
              else (readEscape rest).bind fun found => more found.1 (found.2 + 1)
            else more x 1
          else if x = '\'' then if rest.head? = some '\'' then more '\'' 2 else some ([], 0, .quote)
          else more x 1

/-- Reads the text in quotes from behind the opening quote on, and passes the closing one. -/
def readQuoted (double : Bool) : Nat → List Char → Cursor → Option (List Char × Cursor)
  | 0, _, _ => none
  | fuel + 1, done, c =>
      if c.atDocumentMark || c.atEnd then none
      else do
        let (run, width, stop) ← readQuotedRun double (c.rest.length + 1) c.rest
        let behind := c.skip width
        match stop with
        | .quote => some (done ++ run, behind.skip 1)
        | .gap =>
            let (gap, next) ← readGapFrom 0 Gap.none behind
            readQuoted double fuel (done ++ run ++ gap.text) next
        | .lineEscape =>
            let (gap, next) ← readGapFrom 0 Gap.escaped behind.skipBreak
            readQuoted double fuel (done ++ run ++ gap.text) next

/-! ## Block scalars -/

/-- What becomes of the line ends behind a block scalar. -/
inductive Chomping where
  | strip
  | clip
  | keep
deriving DecidableEq

/-- The chomping of a sign. -/
def Chomping.ofSign? (c : Char) : Option Chomping :=
  if c = '+' then some keep else if c = '-' then some strip else none

/-- The indentation of a digit; zero is none. -/
def indentDigit? (c : Char) : Option Nat :=
  if '1' ≤ c ∧ c ≤ '9' then some (c.toNat - '0'.toNat) else none

/-- The chomping and the extra indentation that a header gives, in either order. -/
def readHeader (c : Cursor) : Option (Chomping × Option Nat × Cursor) :=
  match c.rest with
  | [] => some (.clip, none, c)
  | x :: rest =>
      match Chomping.ofSign? x with
      | some chomping =>
          match rest.head? with
          | some '0' => none
          | next =>
              match next.bind indentDigit? with
              | some n => some (chomping, some n, c.skip 2)
              | none => some (chomping, none, c.skip 1)
      | none =>
          if x = '0' then none
          else
            match indentDigit? x with
            | none => some (.clip, none, c)
            | some n =>
                match rest.head?.bind Chomping.ofSign? with
                | some chomping => some (chomping, some n, c.skip 2)
                | none => some (.clip, some n, c.skip 1)

/-- Passes over empty lines and the indentation of the next line, at most `indent` wide if it is
known; also the widest indentation seen. -/
def readIndent (indent : Option Nat) : Nat → List Char → Nat → Cursor → Option (List Char × Nat × Cursor)
  | 0, breaks, widest, c => some (breaks, widest, c)
  | fuel + 1, breaks, widest, c =>
      let spaces := (c.rest.takeWhile (· = ' ')).length
      let width := match indent with
        | some n => min spaces (n - c.column)
        | none => spaces
      let inside := c.skip width
      let widest := max widest inside.column
      if (indent.all fun n => inside.column < n) ∧ inside.sees '\t' then none
      else if inside.atBreak then
        readIndent indent fuel (breaks ++ inside.breakText) widest inside.skipBreak
      else some (breaks, widest, inside)

/-- The lines of a block scalar from the first one on: `last` is the line end before this one and
`breaks` are the empty lines before it. -/
def readBlockLines (literal : Bool) (indent : Nat) (chomping : Chomping) :
    Nat → List Char → List Char → List Char → Bool → Cursor → Option (List Char × Cursor)
  | 0, _, _, _, _, _ => none
  | fuel + 1, done, last, breaks, afterBlank, c =>
      if c.column ≠ indent ∨ c.atEnd then
        some (done ++ (if chomping = .strip then [] else last)
          ++ (if chomping = .keep then breaks else []), c)
      else do
        let blank := c.atBlank
        let joint :=
          if !literal ∧ last = ['\n'] ∧ !afterBlank ∧ !blank then
            if breaks.isEmpty then [' '] else []
          else last
        let (line, behind) := c.takeWhile fun x => !isBreak x
        let (more, _, next) ←
          readIndent (some indent) (behind.rest.length + 1) [] 0 behind.skipBreak
        readBlockLines literal indent chomping fuel (done ++ joint ++ breaks ++ line)
          behind.breakText more blank next

/-- Reads a block scalar from behind its sign on, inside a block of indentation `parent`. -/
def readBlock (literal : Bool) (parent : Int) (c : Cursor) : Option (List Char × Cursor) := do
  let (chomping, extra, behind) ← readHeader c
  let line := (behind.takeWhile isBlank).2.skipComment
  if !(line.atBreak || line.atEnd) then none
  else
    let known := extra.map fun n => (max parent 0).toNat + n
    let fuel := line.rest.length + 1
    let (breaks, widest, next) ← readIndent known fuel [] 0 line.skipBreak
    let indent := known.getD (max widest (max (parent + 1).toNat 1))
    readBlockLines literal indent chomping fuel [] [] breaks false next

end Vigil.Yaml
