import Vigil.Double.Basic

/-!
# Decimals

A decimal is a natural number of digits scaled by a power of ten. This module
relates decimals to binary64 numbers: every decimal has a nearest number, and
text in the usual notations reads as the nearest number to the decimal it names.
-/

namespace Vigil

/-- The value `digits * 10 ^ exponent`. -/
structure Decimal where
  digits : Nat
  exponent : Int
deriving DecidableEq, Repr

namespace Decimal

/-- The decimal as a ratio of counts of quanta. -/
def ratio (d : Decimal) : Nat × Nat :=
  if 0 ≤ d.exponent then (d.digits * Nat.pow 10 d.exponent.toNat * Grid.one, 1)
  else (d.digits * Grid.one, Nat.pow 10 (-d.exponent).toNat)

/-- The numeral of a natural number in base ten. -/
def numeral (n : Nat) : List Char := Nat.toDigits 10 n

/-- The numeral of an integer, with a minus sign below zero. -/
def integer (n : Int) : List Char := (if n < 0 then ['-'] else []) ++ numeral n.natAbs

/-- The value of a digit character. -/
def digitValue (c : Char) : Nat := c.toNat - '0'.toNat

/-- The natural number that a run of digits names. -/
def ofDigits (digits : List Char) : Nat := digits.foldl (fun n c => 10 * n + digitValue c) 0

/-- The decimal without the zeros at the end of its digits, taking away at most `fuel`. -/
def dropZeros : Nat → Decimal → Decimal
  | 0, d => d
  | fuel + 1, d =>
      if d.digits ≠ 0 ∧ d.digits % 10 = 0 then dropZeros fuel ⟨d.digits / 10, d.exponent + 1⟩ else d

/-- The decimal without the zeros at the end of its digits. -/
def normalize (d : Decimal) : Decimal := dropZeros (numeral d.digits).length d

/-- The digits of a decimal with a point where it belongs and no exponent. -/
def positional (d : Decimal) : List Char :=
  let digits := numeral d.digits
  if 0 ≤ d.exponent then digits ++ List.replicate d.exponent.toNat '0'
  else
    let places := (-d.exponent).toNat
    if places < digits.length then
      digits.take (digits.length - places) ++ '.' :: digits.drop (digits.length - places)
    else '0' :: '.' :: (List.replicate (places - digits.length) '0' ++ digits)

end Decimal

namespace Double

/-- The number nearest to a decimal; exponents far outside the range are decided without scaling. -/
def ofDecimal (negative : Bool) (d : Decimal) : Double :=
  if d.digits = 0 then .finite negative .zero
  else if 400 < d.exponent then .infinite negative
  else if d.exponent + (Decimal.numeral d.digits).length < -400 then .finite negative .zero
  else ofRatio negative d.ratio.1 d.ratio.2

/-- Reads the part of a numeral after its sign: digits with an optional point and exponent. -/
def readUnsigned (negative : Bool) (text : List Char) : Option Double :=
  let whole := text.takeWhile Char.isDigit
  let afterWhole := text.dropWhile Char.isDigit
  let (places, rest) := match afterWhole with
    | '.' :: tail => (tail.takeWhile Char.isDigit, tail.dropWhile Char.isDigit)
    | _ => ([], afterWhole)
  let digits := whole ++ places
  if digits.isEmpty then none
  else
    let value (exponent : Int) : Double :=
      ofDecimal negative ⟨Decimal.ofDigits digits, exponent - places.length⟩
    match rest with
    | [] => some (value 0)
    | mark :: tail =>
        if mark = 'e' ∨ mark = 'E' then
          let (down, power) := match tail with
            | '-' :: more => (true, more)
            | '+' :: more => (false, more)
            | _ => (false, tail)
          if power.isEmpty ∨ power.any (fun c => !c.isDigit) then none
          else
            let size : Int := Decimal.ofDigits power
            some (value (if down then -size else size))
        else none

/-- Reads a number: an optional sign, then a numeral or the name of an infinity or of not-a-number
in any case. Nothing may surround it. -/
def read (text : List Char) : Option Double :=
  let (negative, body) := match text with
    | '-' :: tail => (true, tail)
    | '+' :: tail => (false, tail)
    | _ => (false, text)
  match readUnsigned negative body with
  | some x => some x
  | none =>
      let word := body.map Char.toLower
      if word = "nan".toList then some .nan
      else if word = "inf".toList ∨ word = "infinity".toList then some (.infinite negative)
      else none

end Double

end Vigil
