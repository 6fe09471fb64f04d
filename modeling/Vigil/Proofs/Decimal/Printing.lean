import Vigil.Proofs.Decimal.Nearest
import Vigil.Proofs.Decimal.Reading

/-!
# Printed numbers are read back

The shortest decimal of a magnitude reads back as the magnitude, whether it was found on a grid of
few digits or is the magnitude written out in full. In positional notation a decimal keeps its
value, so every number is read back from its text.
-/

namespace Vigil

attribute [local irreducible] Grid.quantumBits

namespace Decimal

/-! ## Digits -/

/-- Zeros behind the digits multiply by powers of ten. -/
theorem ofDigits_append_zeros (digits : List Char) (k : Nat) :
    ofDigits (digits ++ List.replicate k '0') = ofDigits digits * 10 ^ k := by
  induction k with
  | zero => simp
  | succ k ih =>
    rw [List.replicate_succ', ← List.append_assoc, ofDigits, List.foldl_append, ← ofDigits, ih]
    simp only [List.foldl_cons, List.foldl_nil, digitValue, Nat.sub_self, Nat.add_zero]
    rw [Nat.pow_succ]
    ring

/-- Zeros in front of the digits mean nothing. -/
theorem ofDigits_zeros_append (k : Nat) (digits : List Char) :
    ofDigits (List.replicate k '0' ++ digits) = ofDigits digits := by
  induction k with
  | zero => rfl
  | succ k ih => rwa [List.replicate_succ]

/-! ## Values -/

/-- Decimals of one value have one number. -/
theorem ofDecimal_congr {d e : Decimal} (same : d.value = e.value) (negative : Bool) :
    Double.ofDecimal negative d = Double.ofDecimal negative e := by
  have one := ne_of_gt Grid.one_pos_rat
  have first : (d.ratio.2 : ℚ) ≠ 0 := Nat.cast_ne_zero.2 (Nat.ne_of_gt d.ratio_pos)
  have second : (e.ratio.2 : ℚ) ≠ 0 := Nat.cast_ne_zero.2 (Nat.ne_of_gt e.ratio_pos)
  rw [value_eq_ratio, value_eq_ratio, div_eq_div_iff (mul_ne_zero first one)
    (mul_ne_zero second one), ← mul_assoc, ← mul_assoc, mul_left_inj' one] at same
  have crossed : d.ratio.1 * e.ratio.2 = e.ratio.1 * d.ratio.2 := by exact_mod_cast same
  calc
    Double.ofDecimal negative d = Double.ofRatio negative d.ratio.1 d.ratio.2 :=
      Double.ofDecimal_eq_ofRatio negative d
    _ = Double.ofRatio negative (e.ratio.2 * d.ratio.1) (e.ratio.2 * d.ratio.2) :=
      (Double.ofRatio_mul_mul_left e.ratio_pos negative _ _).symm
    _ = Double.ofRatio negative (d.ratio.2 * e.ratio.1) (d.ratio.2 * e.ratio.2) := by
      rw [Nat.mul_comm e.ratio.2 d.ratio.1, crossed, Nat.mul_comm e.ratio.1, Nat.mul_comm e.ratio.2]
    _ = Double.ofRatio negative e.ratio.1 e.ratio.2 :=
      Double.ofRatio_mul_mul_left d.ratio_pos negative _ _
    _ = Double.ofDecimal negative e := (Double.ofDecimal_eq_ofRatio negative e).symm

/-- A zero at the end of the digits may be moved into the exponent. -/
theorem value_dropZeros (fuel : Nat) (d : Decimal) : (dropZeros fuel d).value = d.value := by
  induction fuel generalizing d with
  | zero => rfl
  | succ fuel ih =>
    unfold dropZeros
    split
    · rename_i ends
      have digits : d.digits = 10 * (d.digits / 10) := by omega
      rw [ih, value, value]
      conv_rhs => rw [digits]
      rw [zpow_add_one₀ (by norm_num)]
      push_cast
      ring
    · rfl

/-- Zeros at the end of the digits do not change the value. -/
theorem value_normalize (d : Decimal) : d.normalize.value = d.value := value_dropZeros _ d

/-! ## Positional notation -/

/-- Digits with their point write a decimal: at least one of them stands before the point, and they
keep the value. -/
structure Writes (d : Decimal) (whole : List Char) (places : Option (List Char)) : Prop where
  nonempty : whole ≠ []
  ascii : ∀ c ∈ whole ++ places.getD [], c.isDigit = true
  value : (ofWritten whole places).value = d.value

/-- Zeros that fill up are digits. -/
theorem isDigit_of_mem_zeros {k : Nat} {c : Char} (member : c ∈ List.replicate k '0') :
    c.isDigit = true := by
  rw [(List.mem_replicate.1 member).2]
  rfl

/-- Without places, zeros follow the digits. -/
theorem writes_whole {d : Decimal} (whole : 0 ≤ d.exponent) :
    d.Writes (numeral d.digits ++ List.replicate d.exponent.toNat '0') none := by
  constructor
  case nonempty => exact List.append_ne_nil_of_left_ne_nil (numeral_ne_nil _) _
  case ascii =>
    intro c member
    simp only [Option.getD_none, List.append_nil, List.mem_append] at member
    exact member.elim isDigit_of_mem_numeral isDigit_of_mem_zeros
  case value =>
    have power : (10 : ℚ) ^ d.exponent = 10 ^ d.exponent.toNat := by
      rw [← zpow_natCast, Int.toNat_of_nonneg whole]
    simp only [Decimal.value, ofWritten, Option.getD_none, List.append_nil, ofDigits_append_zeros,
      ofDigits_numeral, List.length_nil, Nat.cast_zero, neg_zero, zpow_zero, mul_one, power]
    push_cast
    rfl

/-- With fewer places than digits, the point stands between them. -/
theorem writes_inside {d : Decimal} {places : Nat} (exponent : -(places : ℤ) = d.exponent)
    (few : places < (numeral d.digits).length) :
    d.Writes ((numeral d.digits).take ((numeral d.digits).length - places))
      (some ((numeral d.digits).drop ((numeral d.digits).length - places))) := by
  constructor
  case nonempty =>
    apply List.length_pos_iff.1
    rw [List.length_take]
    omega
  case ascii =>
    rw [Option.getD_some, List.take_append_drop]
    exact fun _ => isDigit_of_mem_numeral
  case value =>
    have length : ((numeral d.digits).drop ((numeral d.digits).length - places)).length =
        places := by
      rw [List.length_drop]
      omega
    rw [ofWritten, Option.getD_some, List.take_append_drop, ofDigits_numeral, length, exponent]

/-- With more places than digits, zeros stand before the digits and behind the point. -/
theorem writes_leading {d : Decimal} {places : Nat} (exponent : -(places : ℤ) = d.exponent)
    (many : (numeral d.digits).length ≤ places) :
    d.Writes ['0']
      (some (List.replicate (places - (numeral d.digits).length) '0' ++ numeral d.digits)) := by
  constructor
  case nonempty => exact List.cons_ne_nil _ _
  case ascii =>
    intro c member
    simp only [Option.getD_some, List.mem_append, List.mem_singleton] at member
    rcases member with rfl | zero | digit
    · rfl
    · exact isDigit_of_mem_zeros zero
    · exact isDigit_of_mem_numeral digit
  case value =>
    have leading := ofDigits_zeros_append 1
      (List.replicate (places - (numeral d.digits).length) '0' ++ numeral d.digits)
    have length : (List.replicate (places - (numeral d.digits).length) '0' ++
        numeral d.digits).length = places := by
      rw [List.length_append, List.length_replicate]
      omega
    rw [List.replicate_one] at leading
    rw [ofWritten, Option.getD_some, leading, ofDigits_zeros_append, ofDigits_numeral, length,
      exponent]

/-- In positional notation a decimal is written with digits that keep its value. -/
theorem exists_writes (d : Decimal) : ∃ (whole : List Char) (places : Option (List Char)),
    d.positional = written whole places ∧ d.Writes whole places := by
  unfold positional
  dsimp only
  split
  · rename_i whole
    exact ⟨_, none, rfl, writes_whole whole⟩
  · have exponent : -((-d.exponent).toNat : ℤ) = d.exponent := by omega
    split
    · rename_i few
      exact ⟨_, some _, rfl, writes_inside exponent few⟩
    · rename_i many
      exact ⟨['0'], some _, rfl, writes_leading exponent (Nat.le_of_not_lt many)⟩

end Decimal

namespace Double

/-- The number of a numeral is the whole number that it names. -/
theorem ofDecimal_numeral (negative : Bool) (n : Nat) :
    ofDecimal negative (.ofWritten (Decimal.numeral n) none) = whole negative n := by
  rw [ofDecimal_eq_ofRatio]
  simp [Decimal.ofWritten, Decimal.ratio, Decimal.ofDigits_numeral, whole]

end Double

namespace Magnitude

/-! ## The shortest decimal -/

/-- The number of a decimal that reads back is the magnitude, with its sign. -/
theorem ofDecimal_of_readsBack {m : Magnitude} {d : Decimal} (back : m.readsBack d = true)
    (negative : Bool) : Double.ofDecimal negative d = .finite negative m := by
  have nearest : Grid.nearest d.ratio.1 d.ratio.2 = m.count := of_decide_eq_true back
  obtain ⟨count, fits, below⟩ := m
  rw [Double.ofDecimal_eq_ofRatio]
  simp only at nearest
  simp only [Double.ofRatio, nearest, dif_pos below]

/-- A decimal that is taken from a grid reads back. -/
theorem readsBack_of_onGrid {m : Magnitude} {power : Int} {d : Decimal}
    (found : m.onGrid power = some d) : m.readsBack d = true := by
  unfold onGrid at found
  dsimp only at found
  split at found
  · rename_i low high
    split at found <;> cases found
    · exact low
    · exact high
  · rename_i low high
    cases found
    exact low
  · rename_i low high
    cases found
    exact high
  · cases found

/-- The magnitude written out in full reads back. -/
theorem readsBack_exact (m : Magnitude) : m.readsBack m.exact = true := by
  have some : 0 < Grid.quantumBits := by
    unfold Grid.quantumBits
    decide
  have below : ¬(0 : ℤ) ≤ -(Grid.quantumBits : ℤ) := by omega
  have scaled : m.count * Nat.pow 5 Grid.quantumBits * Grid.one =
      Nat.pow 10 Grid.quantumBits * m.count := by
    have ten : Nat.pow 10 Grid.quantumBits = Nat.pow 5 Grid.quantumBits * Grid.one := by
      unfold Grid.one
      exact Nat.mul_pow 5 2 Grid.quantumBits
    rw [ten]
    ring
  unfold readsBack exact
  simp only [Decimal.ratio, if_neg below, neg_neg, Int.toNat_natCast, scaled]
  exact decide_eq_true (Grid.nearest_mul_of_fits m.fits (Nat.pow_pos (by decide)))

/-- The number of the shortest decimal is the magnitude, with its sign. -/
theorem ofDecimal_shortest (m : Magnitude) (negative : Bool) :
    Double.ofDecimal negative m.shortest = .finite negative m := by
  unfold shortest
  rw [Decimal.ofDecimal_congr (Decimal.value_normalize _)]
  apply ofDecimal_of_readsBack
  cases found : (List.range 17).findSome? fun (more : Nat) => m.onGrid (m.leadingPower - more) with
  | none => exact m.readsBack_exact
  | some d =>
    obtain ⟨more, -, taken⟩ := List.exists_of_findSome?_eq_some found
    exact readsBack_of_onGrid taken

end Magnitude

namespace Double

/-- A finite number is written with digits, at least one of them before the point, and these are
read back as the number. -/
theorem exists_written_text (negative : Bool) (m : Magnitude) :
    ∃ (whole : List Char) (places : Option (List Char)),
      text (.finite negative m) = signText negative ++ Decimal.written whole places ∧ whole ≠ [] ∧
        (∀ c ∈ whole ++ places.getD [], c.isDigit = true) ∧
        ∀ sign, ofDecimal sign (Decimal.ofWritten whole places) = .finite sign m := by
  by_cases zero : m.count = 0
  · refine ⟨['0'], none, by simp [text, zero, Decimal.written], by simp, by simp, fun sign => ?_⟩
    obtain ⟨count, fits, below⟩ := m
    obtain rfl : count = 0 := zero
    rfl
  · obtain ⟨whole, places, written, writes⟩ := m.shortest.exists_writes
    refine ⟨whole, places, by simp [text, zero, written], writes.nonempty, writes.ascii, ?_⟩
    intro sign
    rw [Decimal.ofDecimal_congr writes.value, m.ofDecimal_shortest]

/-- Every number is read back from its text. -/
theorem read_text (x : Double) : read x.text = some x := by
  cases x with
  | nan => decide
  | infinite negative => cases negative <;> decide
  | finite negative m =>
    obtain ⟨whole, places, written, some, digits, back⟩ := exists_written_text negative m
    rw [written, read_written (List.append_ne_nil_of_left_ne_nil some _) digits, back]

end Double

end Vigil
