import Vigil.Decimal.Basic

/-!
# Shortest decimals

The shortest decimal of a magnitude is taken from the coarsest decimal grid on
which one of the two neighbours of the magnitude reads back as the magnitude; of
two such neighbours the nearer one, and the upper one from the middle. The texts
of numbers are built from it: positional text, text with one decimal place, and
the text that marks a number as such inside messages.
-/

namespace Vigil

namespace Magnitude

/-- The decimal reads back as this magnitude. -/
def readsBack (m : Magnitude) (d : Decimal) : Bool :=
  Grid.nearest d.ratio.1 d.ratio.2 = m.count

/-- The power of ten of the first digit of a positive magnitude. -/
def leadingPower (m : Magnitude) : Int :=
  (Decimal.numeral (m.count * Nat.pow 10 340 / Grid.one)).length - 341

/-- The magnitude as a ratio in units of a power of ten. -/
def inUnitsOf (m : Magnitude) (power : Int) : Nat × Nat :=
  if 0 ≤ power then (m.count, Grid.one * Nat.pow 10 power.toNat)
  else (m.count * Nat.pow 10 (-power).toNat, Grid.one)

/-- The neighbour that reads back on the grid of one power of ten, if there is one. -/
def onGrid (m : Magnitude) (power : Int) : Option Decimal :=
  let (num, den) := m.inUnitsOf power
  let low : Decimal := ⟨num / den, power⟩
  let high : Decimal := ⟨num / den + 1, power⟩
  match m.readsBack low, m.readsBack high with
  | true, true => some (if 2 * (num % den) < den then low else high)
  | true, false => some low
  | false, true => some high
  | false, false => none

/-- The magnitude written out in full. -/
def exact (m : Magnitude) : Decimal :=
  ⟨m.count * Nat.pow 5 Grid.quantumBits, -(Grid.quantumBits : Int)⟩

/-- The shortest decimal that reads back, without zeros at its end. -/
def shortest (m : Magnitude) : Decimal :=
  let found := (List.range 17).findSome? fun (more : Nat) => m.onGrid (m.leadingPower - more)
  (found.getD m.exact).normalize

end Magnitude

namespace Double

/-- The sign of a number as it stands before its digits. -/
def signText (negative : Bool) : List Char := if negative then ['-'] else []

/-- The number in positional notation with the fewest digits that read back. -/
def text : Double → List Char
  | .nan => "NaN".toList
  | .infinite s => signText s ++ "inf".toList
  | .finite s m => signText s ++ if m.count = 0 then ['0'] else m.shortest.positional

/-- The number in positional notation with one decimal place, a half going to the even digit. -/
def tenths : Double → List Char
  | .nan => "NaN".toList
  | .infinite s => signText s ++ "inf".toList
  | .finite s m =>
      let parts := roundParts m 10
      signText s ++ Decimal.numeral (parts / 10) ++ '.' :: Decimal.numeral (parts % 10)

/-- The decimal with one digit before the point and a marked power of ten. -/
def scientific (d : Decimal) : List Char :=
  let digits := Decimal.numeral d.digits
  let power := d.exponent + (digits.length - 1 : Nat)
  let tail := digits.drop 1
  digits.take 1 ++ (if tail.isEmpty then [] else '.' :: tail) ++
    'e' :: signText (power < 0) ++ Decimal.numeral power.natAbs

/-- The number as messages show it: always with a point or a power of ten, which is used from
`10 ^ 16` up and below `10 ^ -4`. -/
def shownText : Double → List Char
  | .nan => "NaN".toList
  | .infinite s => signText s ++ "inf".toList
  | .finite s m =>
      if m.count = 0 then signText s ++ "0.0".toList
      else
        let power := m.leadingPower
        if power < -4 ∨ 16 ≤ power then signText s ++ scientific m.shortest
        else
          let body := m.shortest.positional
          signText s ++ if body.contains '.' then body else body ++ ".0".toList

end Double

end Vigil
