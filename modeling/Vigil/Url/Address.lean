import Vigil.Decimal.Basic
import Vigil.Text.Split
import Vigil.Text.Blank
import Vigil.Url.Percent

/-!
# Internet addresses

Hosts that are numbers. A version 4 address has up to four parts in decimal,
octal or hexadecimal, of which the last fills all remaining bytes. A version 6
address has eight groups, of which one run of zeros may be left out.
-/

namespace Vigil.Url

/-- The value of digits in a base; an empty list is zero. -/
def value? (base : Nat) (text : List Char) : Option Nat :=
  text.foldlM (fun n c => do
    let d ← hexValue? c
    if d < base then some (n * base + d) else none) 0

/-- The value of a part of a version 4 address. -/
def part? : List Char → Option Nat
  | [] => none
  | '0' :: 'x' :: text => value? 16 text
  | '0' :: 'X' :: text => value? 16 text
  | '0' :: c :: text => value? 8 (c :: text)
  | text => value? 10 text

/-- The parts of a host between its dots, without an empty one at the end. -/
def dottedParts (host : List Char) : List (List Char) :=
  let parts := Text.splitAt '.' host
  if parts.getLast? = some [] then parts.dropLast else parts

/-- The host ends in a number, so it must be a version 4 address. -/
def endsInNumber (host : List Char) : Bool :=
  match (dottedParts host).getLast? with
  | none => false
  | some part => (!part.isEmpty && part.all Char.isDigit) || (part? part).isSome

/-- The bytes of a version 4 address. -/
def version4? (host : List Char) : Option (List Nat) := do
  let numbers ← (dottedParts host).mapM part?
  let last ← numbers.getLast?
  let front := numbers.dropLast
  if 3 < front.length ∨ front.any (255 < ·) ∨ Nat.pow 256 (4 - front.length) ≤ last then none
  else
    some (front ++ ((List.range (4 - front.length)).reverse.map fun i => last / Nat.pow 256 i % 256))

/-- A version 4 address in decimal. -/
def version4Text (bytes : List Nat) : List Char :=
  ['.'].intercalate (bytes.map Decimal.numeral)

/-- The value of a group of a version 6 address. -/
def group? (text : List Char) : Option Nat :=
  if text.isEmpty ∨ 4 < text.length then none else value? 16 text

/-- A part of a version 4 address inside one of version 6: decimal without a leading zero. -/
def embeddedPart? (text : List Char) : Option Nat :=
  if text.isEmpty ∨ (text.head? = some '0' ∧ 1 < text.length) then none
  else (value? 10 text).filter (· < 256)

/-- The two groups of a version 4 address inside one of version 6. -/
def embedded? (text : List Char) : Option (List Nat) := do
  match ← (Text.splitAt '.' text).mapM embeddedPart? with
  | [a, b, c, d] => some [a * 256 + b, c * 256 + d]
  | _ => none

/-- The groups of pieces, where only the last piece may be a version 4 address. -/
def groupsOf (mayEmbed : Bool) : List (List Char) → Option (List Nat)
  | [] => some []
  | [piece] =>
      if mayEmbed && piece.contains '.' then embedded? piece else (group? piece).map ([·])
  | piece :: rest => do
      let first ← group? piece
      let others ← groupsOf mayEmbed rest
      some (first :: others)

/-- The groups of a text, which may be empty. -/
def groups? (mayEmbed : Bool) (text : List Char) : Option (List Nat) :=
  if text.isEmpty then some [] else groupsOf mayEmbed (Text.splitAt ':' text)

/-- The parts before and after the first double colon. -/
def splitGap : List Char → Option (List Char × List Char)
  | ':' :: ':' :: rest => some ([], rest)
  | c :: rest => (splitGap rest).map fun parts => (c :: parts.1, parts.2)
  | [] => none

/-- The groups of a version 6 address. -/
def version6? (text : List Char) : Option (List Nat) :=
  match splitGap text with
  | none => (groups? true text).filter fun groups => groups.length = 8
  | some (front, back) => do
      let front ← groups? false front
      let back ← groups? true back
      if 7 < front.length + back.length then none
      else some (front ++ List.replicate (8 - front.length - back.length) 0 ++ back)

/-- The length of the run of zeros at the front. -/
def zeros (groups : List Nat) : Nat := (groups.takeWhile (· = 0)).length

/-- The start and the length of the first longest run of zeros, if it has two or more. -/
def gap? (groups : List Nat) : Option (Nat × Nat) :=
  let runs := (List.range groups.length).map fun i => (i, zeros (groups.drop i))
  let best := runs.foldl (fun best run => if best.2 < run.2 then run else best) (0, 1)
  if 1 < best.2 then some best else none

/-- A group in hexadecimal. -/
def groupText (group : Nat) : List Char := Nat.toDigits 16 group

/-- A version 6 address with its longest run of zeros left out. -/
def version6Text (groups : List Nat) : List Char :=
  let join (part : List Nat) := [':'].intercalate (part.map groupText)
  match gap? groups with
  | none => join groups
  | some (start, length) => join (groups.take start) ++ ':' :: ':' :: join (groups.drop (start + length))

end Vigil.Url
