import Mathlib.Algebra.Group.Nat.Defs
import Vigil.Decimal.Basic

/-!
# Numerals

The numeral of a natural number consists of digits, at least one, and names the number.
-/

namespace Vigil.Decimal

/-- A numeral consists of digits. -/
theorem isDigit_of_mem_numeral {n : Nat} {c : Char} (member : c ∈ numeral n) :
    c.isDigit = true := Nat.isDigit_of_mem_toDigits (by decide) (by decide) member

/-- A numeral has a digit. -/
theorem numeral_ne_nil (n : Nat) : numeral n ≠ [] := Nat.toDigits_ne_nil

/-- A numeral names its number. -/
theorem ofDigits_numeral (n : Nat) : ofDigits (numeral n) = n := Nat.ofDigitChars_ten_toDigits

/-- A number has fewer digits than the power of ten above it. -/
theorem lt_pow_length_numeral (n : Nat) : n < 10 ^ (numeral n).length :=
  (Nat.length_toDigits_le_iff (by decide) (List.length_pos_iff.2 (numeral_ne_nil n))).1
    (Nat.le_refl _)

end Vigil.Decimal
