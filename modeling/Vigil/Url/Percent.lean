/-!
# Percent encoding

A character outside a set of kept characters is written as the bytes of its
UTF-8 form, each with a percent sign and two hexadecimal digits. The parts of an
address and form data differ only in the characters that they keep.
-/

namespace Vigil.Url

/-- The upper-case hexadecimal digit of a number below sixteen. -/
def hexDigit (n : Nat) : Char := if n < 10 then Char.ofNat (48 + n) else Char.ofNat (55 + n)

/-- The value of a hexadecimal digit. -/
def hexValue? (c : Char) : Option Nat :=
  if c.isDigit then some (c.toNat - 48)
  else if 'A' ≤ c ∧ c ≤ 'F' then some (c.toNat - 55)
  else if 'a' ≤ c ∧ c ≤ 'f' then some (c.toNat - 87)
  else none

/-- A byte as a percent sign and two digits. -/
def escapeByte (b : UInt8) : List Char := ['%', hexDigit (b.toNat / 16), hexDigit (b.toNat % 16)]

/-- A character that is kept, or the escapes of its bytes. -/
def encodeChar (keep : Char → Bool) (c : Char) : List Char :=
  if keep c then [c] else (String.utf8EncodeChar c).flatMap escapeByte

/-- A text with every character encoded that is not kept. -/
def encode (keep : Char → Bool) (text : List Char) : List Char := text.flatMap (encodeChar keep)

/-- The bytes of a text in which escapes stand for bytes; a percent sign that begins no escape
stands for itself. -/
def decode : List Char → List UInt8
  | '%' :: a :: b :: rest =>
      match hexValue? a, hexValue? b with
      | some high, some low => UInt8.ofNat (high * 16 + low) :: decode rest
      | _, _ => String.utf8EncodeChar '%' ++ decode (a :: b :: rest)
  | c :: rest => String.utf8EncodeChar c ++ decode rest
  | [] => []

/-- Every percent sign begins an escape. -/
def allEscapes : List Char → Bool
  | '%' :: a :: b :: rest => (hexValue? a).isSome && (hexValue? b).isSome && allEscapes rest
  | '%' :: _ => false
  | _ :: rest => allEscapes rest
  | [] => true

/-- The text of bytes in UTF-8. -/
def ofBytes? (bytes : List UInt8) : Option (List Char) :=
  (String.fromUTF8? ⟨bytes.toArray⟩).map String.toList

/-- A printable ASCII character. -/
def isGraphic (c : Char) : Bool := '!' ≤ c && c ≤ '~'

/-- Kept in hosts and paths without structure: printable ASCII and the space. -/
def keptInPlain (c : Char) : Bool := c = ' ' || isGraphic c

/-- Kept in fragments. -/
def keptInFragment (c : Char) : Bool := isGraphic c && !(['"', '<', '>', '`'].contains c)

/-- Kept in queries. -/
def keptInQuery (c : Char) : Bool := isGraphic c && !(['"', '#', '<', '>'].contains c)

/-- Kept in queries of the schemes of the web. -/
def keptInWebQuery (c : Char) : Bool := keptInQuery c && c != '\''

/-- Kept in the segments of a path. -/
def keptInPath (c : Char) : Bool := keptInFragment c && !(['#', '?', '{', '}'].contains c)

/-- Kept in user names and passwords. -/
def keptInUser (c : Char) : Bool :=
  keptInPath c && !(['/', ':', ';', '=', '@', '[', '\\', ']', '^', '|'].contains c)

/-- Kept in form data. -/
def keptInForm (c : Char) : Bool := c.isAlphanum || ['*', '-', '.', '_'].contains c

/-- A text as a name or a value of form data, where a space becomes a plus sign. -/
def formText (text : List Char) : List Char :=
  text.flatMap fun c => if c = ' ' then ['+'] else encodeChar keptInForm c

/-- A name and its value in form data. -/
def formPair (name value : List Char) : List Char := formText name ++ '=' :: formText value

end Vigil.Url
