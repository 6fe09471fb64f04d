import Vigil.Url.Address
import Vigil.Url.Punycode

/-!
# Hosts

The host of an address of the web is decoded, brought to lower case and to ASCII,
and read as a number if it ends in one. The host of any other address is kept
as it is, apart from its encoding.
-/

namespace Vigil.Url

/-- Ranges of capital letters: the ends, the distance of neighbours, and how far up the small
letter lies. -/
def capitalRanges : List (Nat × Nat × Nat × Nat) := [
  (0x41, 0x5a, 1, 32), (0xc0, 0xd6, 1, 32), (0xd8, 0xde, 1, 32), (0x100, 0x12e, 2, 1),
  (0x132, 0x136, 2, 1), (0x139, 0x147, 2, 1), (0x14a, 0x176, 2, 1), (0x179, 0x17d, 2, 1),
  (0x386, 0x386, 1, 38), (0x388, 0x38a, 1, 37), (0x38c, 0x38c, 1, 64), (0x38e, 0x38f, 1, 63),
  (0x391, 0x3a1, 1, 32), (0x3a3, 0x3ab, 1, 32), (0x400, 0x40f, 1, 80), (0x410, 0x42f, 1, 32),
  (0x460, 0x480, 2, 1), (0x48a, 0x4be, 2, 1), (0x4d0, 0x52e, 2, 1), (0x531, 0x556, 1, 48),
  (0x1e00, 0x1e94, 2, 1), (0x1ea0, 0x1efe, 2, 1)]

/-- The small letter of a capital one. -/
def lower (n : Nat) : Nat :=
  match capitalRanges.find? fun r => r.1 ≤ n ∧ n ≤ r.2.1 ∧ (n - r.1) % r.2.2.1 = 0 with
  | some r => n + r.2.2.2
  | none => n

/-- The character that stands for a wide form of ASCII or for a full stop of another script. -/
def narrow (n : Nat) : Nat :=
  if 0xff01 ≤ n ∧ n ≤ 0xff5e then n - 0xfee0
  else if n = 0x3002 ∨ n = 0xff61 then '.'.toNat
  else n

/-- The invisible characters that a host does not keep. -/
def isDropped (c : Char) : Bool := [0xad, 0x200b, 0x2060, 0xfeff].contains c.toNat

/-- A host in lower case. Of the mapping of international names this has the capital letters of the
ranges above, the wide forms of ASCII, the full stops of other scripts and four invisible characters.
Hosts with other characters that this mapping changes or refuses are left as they are here: capital
letters of further ranges and scripts, forms that are only compatible, such as ligatures, letters
beside the marks they compose with, code points without a character, and labels that carry the
prefix of an encoded one already. -/
def lowerHost (host : List Char) : List Char :=
  (host.filter fun c => !isDropped c).map fun c => Char.ofNat (lower (narrow c.toNat))

/-- A label of a host in ASCII. -/
def asciiLabel (label : List Char) : List Char :=
  if label.all fun c => c.toNat < 128 then label
  else ['x', 'n', '-', '-'] ++ Punycode.encode label

/-- The character may not stand in a host name. -/
def isForbidden (c : Char) : Bool :=
  c.toNat ≤ 0x20 || c.toNat = 0x7f ||
    ['#', '/', ':', '<', '>', '?', '@', '[', '\\', ']', '^', '|', '%'].contains c

/-- The character may not stand in a host outside the web. -/
def isForbiddenInPlain (c : Char) : Bool :=
  ['\x00', '\t', '\n', '\r', ' ', '#', '/', ':', '<', '>', '?', '@', '[', '\\', ']', '^', '|'].contains c

/-- The written form of a version 6 address in brackets. -/
def bracketed? (host : List Char) : Option (List Char) := do
  if host.getLast? ≠ some ']' then none
  else
    let groups ← version6? host.tail.dropLast
    some ('[' :: (version6Text groups ++ [']']))

/-- The written form of a host of the web. -/
def webHost? (host : List Char) : Option (List Char) :=
  if host.head? = some '[' then bracketed? host
  else do
    let text ← ofBytes? (decode host)
    let name := ['.'].intercalate ((Text.splitAt '.' (lowerHost text)).map asciiLabel)
    if name.isEmpty ∨ name.any isForbidden then none
    else if endsInNumber name then (version4? name).map version4Text
    else some name

/-- The written form of a host outside the web. -/
def plainHost? (host : List Char) : Option (List Char) :=
  if host.head? = some '[' then bracketed? host
  else if host.any isForbiddenInPlain then none
  else some (encode keptInPlain host)

end Vigil.Url
