import Vigil.Proofs.Decimal.Printing

/-!
# Literals

Shown numbers are literals: a sign, then digits with a point among them or without one, and at least
one of them before the point. The texts of finite numbers, of integers and of numbers with one place
are literals, and each of them is read as the number that its digits name.
-/

namespace Vigil

attribute [local irreducible] Grid.quantumBits

namespace Decimal

/-- A digit at the end is worth itself, and the digits before it ten times as much. -/
theorem ofDigits_append_numeral (digits : List Char) {n : Nat} (single : n < 10) :
    ofDigits (digits ++ numeral n) = 10 * ofDigits digits + n := by
  have one : numeral n = [n.digitChar] := Nat.toDigits_of_lt_base single
  have named := ofDigits_numeral n
  rw [one] at named ⊢
  simp only [ofDigits, List.foldl_append, List.foldl_cons, List.foldl_nil, Nat.mul_zero,
    Nat.zero_add] at named ⊢
  rw [named]

/-- Tenths are written as their whole part and one place. -/
theorem ofWritten_tenths (n : Nat) :
    ofWritten (numeral (n / 10)) (some (numeral (n % 10))) = ⟨n, -1⟩ := by
  have single : n % 10 < 10 := Nat.mod_lt _ (by decide)
  have place : (numeral (n % 10)).length = 1 := by
    rw [numeral, Nat.toDigits_of_lt_base single]
    rfl
  rw [ofWritten, Option.getD_some, ofDigits_append_numeral _ single, ofDigits_numeral,
    Nat.div_add_mod, place]
  rfl

/-- Tenths that make a whole number are worth that number. -/
theorem value_ofWritten_whole {n : Nat} (whole : n % 10 = 0) :
    (ofWritten (numeral (n / 10)) none).value = value ⟨n, -1⟩ := by
  have parts : n = n / 10 * 10 := by omega
  have rational : (n : ℚ) = (n / 10 : Nat) * 10 := by exact_mod_cast parts
  simp only [value, ofWritten, Option.getD_none, List.append_nil, ofDigits_numeral,
    List.length_nil, rational]
  norm_num
  ring

end Decimal

namespace Double

/-- The other sign of a decimal is the other sign of its number. -/
theorem neg_ofDecimal (d : Decimal) : -ofDecimal false d = ofDecimal true d := by
  rw [ofDecimal_eq_ofRatio, ofDecimal_eq_ofRatio]
  unfold ofRatio
  split <;> rfl

/-- A text is a literal: a sign, and digits of which at least one stands before the point, if there is
one. The digits name the size of the number. -/
def Literal (negative : Bool) (size : Double) (text : List Char) : Prop :=
  ∃ (whole : List Char) (places : Option (List Char)),
    text = signText negative ++ Decimal.written whole places ∧ whole ≠ [] ∧
      (∀ c ∈ whole ++ places.getD [], c.isDigit = true) ∧
      ofDecimal false (Decimal.ofWritten whole places) = size

/-- A literal is read as its size with its sign. -/
theorem Literal.read_eq {negative : Bool} {size : Double} {text : List Char}
    (literal : Literal negative size text) :
    read text = some (if negative then -size else size) := by
  obtain ⟨whole, places, rfl, some, ascii, rfl⟩ := literal
  rw [read_written (List.append_ne_nil_of_left_ne_nil some _) ascii]
  cases negative with
  | true => rw [if_pos rfl, neg_ofDecimal]
  | false => rfl

/-- The text of a finite number is a literal of it. -/
theorem literal_text (negative : Bool) (m : Magnitude) :
    Literal negative (.finite false m) (text (.finite negative m)) := by
  obtain ⟨whole, places, written, some, ascii, back⟩ := exists_written_text negative m
  exact ⟨whole, places, written, some, ascii, back false⟩

/-- An integer is a literal of itself. -/
theorem literal_integer (n : Int) :
    Literal (n < 0) (whole false n.natAbs) (Decimal.integer n) := by
  refine ⟨Decimal.numeral n.natAbs, none, ?_, Decimal.numeral_ne_nil _, ?_, ?_⟩
  · simp [Decimal.integer, signText, Decimal.written]
  · intro c member
    rw [Option.getD_none, List.append_nil] at member
    exact Decimal.isDigit_of_mem_numeral member
  · exact ofDecimal_numeral false _

/-- A number that is shown with one place is a literal of the nearest tenths. -/
theorem literal_tenths (negative : Bool) (m : Magnitude) :
    Literal negative (ofDecimal false ⟨roundParts m 10, -1⟩) (tenths (.finite negative m)) := by
  refine ⟨Decimal.numeral (roundParts m 10 / 10), some (Decimal.numeral (roundParts m 10 % 10)), ?_,
    Decimal.numeral_ne_nil _, ?_, ?_⟩
  · simp [tenths, Decimal.written]
  · intro c member
    rw [Option.getD_some] at member
    exact (List.mem_append.1 member).elim Decimal.isDigit_of_mem_numeral
      Decimal.isDigit_of_mem_numeral
  · rw [Decimal.ofWritten_tenths]

end Double

end Vigil
