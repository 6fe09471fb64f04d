import Vigil.Json.Lexeme

/-!
# Reading JSON

A value is put together from lexemes by a machine with a stack of unfinished
lists and objects. The machine takes one lexeme at a time and stops at the first
one that does not fit. Values may be nested up to a fixed depth.
-/

namespace Vigil.Json

/-- An unfinished list, with its items from the last on, or an unfinished object. -/
inductive Frame where
  | items (done : List Json)
  | fields (done : Fields)
  | member (done : Fields) (key : String)

/-- What the machine waits for. -/
inductive Wait where
  /-- A value. -/
  | value
  /-- The first item of a list or its end. -/
  | firstItem
  /-- The first key of an object or its end. -/
  | firstKey
  /-- A further key of an object. -/
  | key
  /-- The colon after a key. -/
  | colon
  /-- A comma or the end of the frame around a finished value. -/
  | next (value : Json)

/-- The state of the machine: unfinished frames from the innermost on. -/
structure Machine where
  stack : List Frame
  wait : Wait

namespace Machine

/-- The number of frames that may be open at once. -/
def depth : Nat := 127

/-- Opens a frame, if it is not nested too deeply. -/
def push (m : Machine) (frame : Frame) (wait : Wait) : Option Machine :=
  if m.stack.length < depth then some ⟨frame :: m.stack, wait⟩ else none

/-- Begins a value with a lexeme. -/
def beginValue (m : Machine) : Lexeme → Option Machine
  | .openList => m.push (.items []) .firstItem
  | .openObject => m.push (.fields []) .firstKey
  | .scalar v => some ⟨m.stack, .next v⟩
  | .text s => some ⟨m.stack, .next (.text s)⟩
  | _ => none

/-- Goes on after a finished value. -/
def finishValue (v : Json) : List Frame → Lexeme → Option Machine
  | .items done :: stack, .comma => some ⟨.items (v :: done) :: stack, .value⟩
  | .items done :: stack, .closeList => some ⟨stack, .next (.list (v :: done).reverse)⟩
  | .member done key :: stack, .comma => some ⟨.fields (done.insert key v) :: stack, .key⟩
  | .member done key :: stack, .closeObject => some ⟨stack, .next (.object (done.insert key v))⟩
  | _, _ => none

/-- Takes one lexeme. -/
def step (m : Machine) (lexeme : Lexeme) : Option Machine :=
  match m.wait, m.stack, lexeme with
  | .value, _, l => m.beginValue l
  | .firstItem, .items _ :: stack, .closeList => some ⟨stack, .next (.list [])⟩
  | .firstItem, _, l => m.beginValue l
  | .firstKey, .fields _ :: stack, .closeObject => some ⟨stack, .next (.object [])⟩
  | .firstKey, .fields done :: stack, .text key => some ⟨.member done key :: stack, .colon⟩
  | .key, .fields done :: stack, .text key => some ⟨.member done key :: stack, .colon⟩
  | .colon, stack, .colon => some ⟨stack, .value⟩
  | .next v, stack, l => finishValue v stack l
  | _, _, _ => none

end Machine

/-- Puts a value together from its lexemes. -/
def ofLexemes (lexemes : List Lexeme) : Option Json := do
  let last ← lexemes.foldlM Machine.step ⟨[], .value⟩
  match last with
  | ⟨[], .next v⟩ => some v
  | _ => none

/-- Reads one value from a whole text. -/
def read (text : List Char) : Option Json := (Lexeme.scan text).bind ofLexemes

end Vigil.Json
