import Vigil.Decimal.Basic
import Vigil.Json.Basic

/-!
# Numbers in configuration files

A numeral without a point and an exponent is an integer when it fits into 64
bits. Every other numeral is a scaled significand: the leading digits that fit
into 64 bits are rounded to a number, and that number is multiplied or divided by
one power of ten, which rounds again. Powers beyond the range are taken in steps.
A result that is not finite is refused.
-/

namespace Vigil.Json.Number

/-- The integers that fit into 64 bits without a sign. -/
def wordBound : Nat := 18446744073709551616

/-- A significand and the power of ten that scales it. -/
structure Scaled where
  significand : Nat
  power : Int

/-- Takes more digits into a significand while it fits; `step` is what each taken digit adds to the
power and `skip` what each digit that is left out adds. -/
def Scaled.take (step skip : Int) : Scaled → List Char → Scaled × Bool
  | s, [] => (s, true)
  | s, c :: rest =>
      let longer := 10 * s.significand + Decimal.digitValue c
      if longer < wordBound then take step skip ⟨longer, s.power + step⟩ rest
      else (⟨s.significand, s.power + skip * (rest.length + 1)⟩, false)

/-- The largest power of ten that is one number. -/
def largestPower : Nat := 308

/-- Multiplies by a power of ten, if the product is finite. -/
def scaleUp (x : Double) (power : Nat) : Option Double :=
  if largestPower < power then if x.same 0 then some x else none
  else
    let product := x * Double.ofDecimal false ⟨1, power⟩
    if product.isFinite then some product else none

/-- Divides by a power of ten, the largest one at a time. -/
def scaleDown (x : Double) (power : Nat) : Double :=
  if power ≤ largestPower then x / Double.ofDecimal false ⟨1, power⟩
  else if x.same 0 then x
  else scaleDown (x / Double.ofDecimal false ⟨1, largestPower⟩) (power - largestPower)
termination_by power
decreasing_by simp only [largestPower]; omega

/-- The number of a scaled significand. -/
def Scaled.toDouble? (s : Scaled) (negative : Bool) : Option Double :=
  let significand := Double.ofNat s.significand
  let size :=
    if 0 ≤ s.power then scaleUp significand s.power.toNat
    else some (scaleDown significand (-s.power).toNat)
  size.map fun x => if negative then -x else x

/-- An exponent from here up is decided by its sign alone. -/
def exponentBound : Nat := 2147483648

/-- The number of a scaled significand with an exponent. -/
def Scaled.withExponent (s : Scaled) (negative down : Bool) (digits : List Char) : Option Double :=
  let size := Decimal.ofDigits digits
  if size < exponentBound then
    Scaled.toDouble? ⟨s.significand, s.power + if down then -(size : Int) else size⟩ negative
  else if s.significand ≠ 0 ∧ !down then none
  else some (.finite negative .zero)

/-- The whole digits of a numeral: zero alone, or digits that do not start with zero. -/
def wholeDigits? (text : List Char) : Option (List Char × List Char) :=
  let digits := text.takeWhile Char.isDigit
  if digits.isEmpty ∨ (digits.head? = some '0' ∧ 1 < digits.length) then none
  else some (digits, text.dropWhile Char.isDigit)

/-- The sign and the digits of an exponent, and the text after it. -/
def exponent? (text : List Char) : Option (Bool × List Char × List Char) :=
  let (down, rest) := match text with
    | '-' :: rest => (true, rest)
    | '+' :: rest => (false, rest)
    | _ => (false, text)
  let digits := rest.takeWhile Char.isDigit
  if digits.isEmpty then none else some (down, digits, rest.dropWhile Char.isDigit)

/-- A numeral without a point and an exponent. -/
def ofWhole (negative : Bool) (digits : List Char) : Option Number :=
  let (s, complete) := Scaled.take 0 1 ⟨0, 0⟩ digits
  if !complete then (s.toDouble? negative).map .real
  else if !negative then some (.integer s.significand)
  else if s.significand = 0 ∨ 9223372036854775808 < s.significand then
    some (.real (-(Double.ofNat s.significand)))
  else some (.integer (-(s.significand : Int)))

/-- Reads the part of a numeral after its sign; returns the text after it. -/
def readUnsigned (negative : Bool) (text : List Char) : Option (Number × List Char) := do
  let (whole, rest) ← wholeDigits? text
  let (s, _) := Scaled.take 0 1 ⟨0, 0⟩ whole
  match rest with
  | '.' :: afterPoint =>
      let places := afterPoint.takeWhile Char.isDigit
      let afterPlaces := afterPoint.dropWhile Char.isDigit
      if places.isEmpty then none
      let (s, _) := Scaled.take (-1) 0 s places
      match afterPlaces with
      | mark :: afterMark =>
          if mark = 'e' ∨ mark = 'E' then
            let (down, digits, last) ← exponent? afterMark
            return (.real (← s.withExponent negative down digits), last)
          else return (.real (← s.toDouble? negative), afterPlaces)
      | [] => return (.real (← s.toDouble? negative), [])
  | mark :: afterMark =>
      if mark = 'e' ∨ mark = 'E' then
        let (down, digits, last) ← exponent? afterMark
        return (.real (← s.withExponent negative down digits), last)
      else return (← ofWhole negative whole, rest)
  | [] => return (← ofWhole negative whole, [])

/-- Reads a numeral; returns the text after it. -/
def read (text : List Char) : Option (Number × List Char) :=
  match text with
  | '-' :: rest => readUnsigned true rest
  | _ => readUnsigned false text

end Vigil.Json.Number
