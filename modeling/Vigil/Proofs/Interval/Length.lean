import Vigil.Proofs.Decimal.Nearest
import Vigil.Proofs.Interval.Spelling

/-!
# Exact lengths

A spelled interval has an exact length in milliseconds, its decimal times its unit. The length that
is computed from it was rounded twice, and it is close to the exact one unless this is tiny. A length
that is accepted as the period of a timer is not tiny, nor is it large.
-/

namespace Vigil

attribute [local irreducible] Grid.quantumBits

namespace TimeUnit

/-- The length of a unit is held exactly. -/
theorem held_millis (unit : TimeUnit) : Grid.Held unit.millis :=
  Grid.held_of_le (by cases unit <;> decide)

/-- The length of a unit as a magnitude. -/
theorem exists_width (unit : TimeUnit) :
    ∃ m : Magnitude, unit.width = .finite false m ∧ m.value = unit.millis :=
  Double.exists_whole unit.held_millis

/-- No unit is shorter than a millisecond. -/
theorem one_le_millis (unit : TimeUnit) : (1 : ℚ) ≤ unit.millis := by
  exact_mod_cast unit.millis_pos

/-- The longest unit is a year. -/
theorem millis_le (unit : TimeUnit) : (unit.millis : ℚ) ≤ 2 ^ 35 := by
  have le : unit.millis ≤ 2 ^ 35 := by cases unit <;> decide
  exact_mod_cast le

end TimeUnit

namespace Duration

/-- A number of seconds with a nanosecond, but not too many of them, is finite, has no sign, and is
neither tiny nor large. -/
theorem exists_of_ofSeconds? {x : Double} {d : Duration} (found : ofSeconds? x = some d)
    (positive : d.nanoseconds ≠ 0) :
    ∃ m : Magnitude, x = .finite false m ∧ 1 / 2 ^ 32 < m.value ∧ m.value < 2 ^ 65 := by
  cases x with
  | nan => cases found
  | infinite negative => cases found
  | finite negative m =>
    simp only [ofSeconds?] at found
    split at found
    · cases found
    · rename_i unsigned
      split at found
      · rename_i limited
        cases found
        have one := Grid.one_pos_rat
        have low := Grid.le_two_mul_of_roundDiv_ne_zero positive
        have high := Grid.le_mul_of_roundDiv_lt Grid.one_pos limited
        have low' : (Grid.one : ℚ) ≤ 2 * (m.count * perSecond) := by exact_mod_cast low
        have high' : (m.count * perSecond : ℚ) ≤
            Grid.one * (18446744073709551616 * perSecond) := by exact_mod_cast high
        have parts : (perSecond : ℚ) = 1000000000 := by norm_num [perSecond]
        rw [parts] at low' high'
        have sign : negative = false := by
          rw [Bool.eq_false_iff]
          intro minus
          refine unsigned ⟨minus, fun none => ?_⟩
          rw [none, Nat.zero_mul] at low
          exact absurd Grid.one_pos (Nat.not_lt.2 low)
        rw [sign]
        refine ⟨m, rfl, ?_, ?_⟩
        · rw [Magnitude.value, lt_div_iff₀ one]
          linarith
        · rw [Magnitude.value, div_lt_iff₀ one]
          linarith
      · cases found

end Duration

namespace Spelling

/-- The decimal with its sign. -/
def magnitude (s : Spelling) : ℚ := if s.negative then -s.decimal.value else s.decimal.value

/-- The exact length in milliseconds. -/
def length (s : Spelling) : ℚ := s.magnitude * s.unit.millis

/-- The decimal is itself a binary64 number. -/
def Exact (s : Spelling) : Prop := ∃ m : Magnitude, m.value = s.magnitude

variable {s : Spelling}

/-- Without a sign the magnitude is that of the decimal. -/
theorem magnitude_of_unsigned (unsigned : s.negative = false) : s.magnitude = s.decimal.value := by
  rw [magnitude, unsigned, if_neg Bool.false_ne_true]

/-- So is the length. -/
theorem length_of_unsigned (unsigned : s.negative = false) :
    s.length = s.decimal.value * s.unit.millis := by
  rw [length, magnitude_of_unsigned unsigned]

/-- With a sign no length is above zero. -/
theorem length_nonpos (minus : s.negative = true) : s.length ≤ 0 := by
  rw [length, magnitude, if_pos minus, neg_mul, neg_nonpos]
  exact mul_nonneg s.decimal.value_nonneg (Nat.cast_nonneg _)

end Spelling

namespace Interval

/-- The length of a finite number of units without a sign is their product, rounded once. -/
theorem rounds_millis (m : Magnitude) (unit : TimeUnit) :
    Double.Rounds (m.value * unit.millis) (millis ⟨.finite false m, unit⟩) := by
  obtain ⟨width, same, value⟩ := unit.exists_width
  rw [millis, same, ← value]
  exact Double.rounds_mul m width

/-- An interval that is the period of a timer has a finite length without a sign, neither tiny nor
large. -/
theorem exists_millis_of_duration {i : Interval} {d : Duration} (found : i.duration = .ok d)
    (positive : d.nanoseconds ≠ 0) :
    ∃ n : Magnitude, i.millis = .finite false n ∧ 1 / 2 ^ 23 < n.value ∧ n.value < 2 ^ 75 := by
  have seconds : Duration.ofSeconds? (i.millis / 1000) = some d := by
    unfold duration at found
    split at found
    · rename_i found'
      cases found
      exact found'
    · cases found
  obtain ⟨m, quotient, low, high⟩ := Duration.exists_of_ofSeconds? seconds positive
  have thousand : Grid.Held 1000 := Grid.held_of_le (by decide)
  rw [Double.literal_eq_whole 1000] at quotient
  obtain ⟨n, same⟩ : ∃ n, i.millis = .finite false n := by
    cases length : i.millis with
    | nan =>
      rw [length, Double.whole_of_held false thousand] at quotient
      cases quotient
    | infinite negative =>
      rw [length, Double.whole_of_held false thousand] at quotient
      cases quotient
    | finite negative n =>
      rw [length, Double.finite_div_whole negative false n thousand (by decide),
        Bool.bne_false] at quotient
      unfold Double.ofRatio at quotient
      split at quotient
      · cases quotient
        exact ⟨n, rfl⟩
      · cases quotient
  refine ⟨n, same, ?_⟩
  obtain ⟨divisor, whole, value⟩ := Double.exists_whole thousand
  have pos : 0 < divisor.value := by rw [value]; norm_num
  have rounds := Double.rounds_div n pos
  rw [← whole, ← same, quotient, value] at rounds
  have above := rounds.tiny_lt (by decide) low
  have below := rounds.lt_huge (by decide) high
  push_cast at above below
  constructor <;> linarith

/-- The computed length of a spelled interval without a sign that is not huge: it is tiny where the
exact one is, and otherwise two roundings away from it. -/
theorem exists_millis {s : Spelling} (unsigned : s.negative = false) (high : s.length ≤ 2 ^ 112) :
    ∃ n : Magnitude, millis ⟨s.value, s.unit⟩ = .finite false n ∧
      (s.length ≤ 1 / 2 ^ 100 ∧ n.value ≤ 1 / 2 ^ 65 ∨
        1 / 2 ^ 100 < s.length ∧ Near 2 n.value s.length) := by
  have value : s.value = .ofDecimal false s.decimal := by rw [Spelling.value, unsigned]
  have length := Spelling.length_of_unsigned unsigned
  have decimal := Double.rounds_ofDecimal s.decimal
  have nonneg := s.decimal.value_nonneg
  have one := s.unit.one_le_millis
  have year := s.unit.millis_le
  have shorter : s.decimal.value ≤ s.length := by
    rw [length]
    exact le_mul_of_one_le_right nonneg one
  by_cases tiny : s.length ≤ 1 / 2 ^ 100
  · obtain ⟨m, same, small⟩ := decimal.exists_le_tiny (by decide) (shorter.trans tiny)
    have product : m.value * s.unit.millis ≤ 1 / 2 ^ 65 := by
      calc
        m.value * s.unit.millis ≤ 1 / 2 ^ 100 * 2 ^ 35 :=
          mul_le_mul small year (zero_le_one.trans one) (by positivity)
        _ = 1 / 2 ^ 65 := by norm_num
    obtain ⟨n, same', small'⟩ := (rounds_millis m s.unit).exists_le_tiny (by decide) product
    rw [value, same]
    exact ⟨n, same', .inl ⟨tiny, small'⟩⟩
  · have large := not_le.1 tiny
    have low : 1 / 2 ^ 135 ≤ s.decimal.value := by
      have product : s.length ≤ s.decimal.value * 2 ^ 35 := by
        rw [length]
        exact mul_le_mul_of_nonneg_left year nonneg
      have scaled : (1 : ℚ) / 2 ^ 135 * 2 ^ 35 = 1 / 2 ^ 100 := by norm_num
      have reached : (1 : ℚ) / 2 ^ 135 * 2 ^ 35 ≤ s.decimal.value * 2 ^ 35 := by linarith
      exact le_of_mul_le_mul_right reached (by positivity)
    obtain ⟨m, same, near⟩ := decimal.exists_near
      (le_trans (by norm_num) low) (le_trans (shorter.trans high) (by norm_num))
    have close : Near 1 (m.value * s.unit.millis) s.length := by
      rw [length]
      exact near.mul_right (zero_le_one.trans one)
    have product : 0 ≤ m.value * s.unit.millis :=
      mul_nonneg m.value_nonneg (zero_le_one.trans one)
    have most := close.le_two_mul (by decide) product
    have least := close.symm.le_two_mul (by decide) (nonneg.trans shorter)
    obtain ⟨n, same', near'⟩ := (rounds_millis m s.unit).exists_near
      (by norm_num at large ⊢; linarith) (by norm_num at high ⊢; linarith)
    rw [value, same]
    exact ⟨n, same', .inr ⟨large, near'.trans close⟩⟩

/-- A spelled interval whose computed length is finite and has no sign is finite and has no sign
itself. -/
theorem exists_value_of_millis {s : Spelling} {n : Magnitude}
    (same : millis ⟨s.value, s.unit⟩ = .finite false n) :
    s.negative = false ∧ ∃ m, s.value = .finite false m := by
  obtain ⟨width, held, -⟩ := s.unit.exists_width
  have rounded : s.value = .ofRatio s.negative s.decimal.ratio.1 s.decimal.ratio.2 :=
    Double.ofDecimal_eq_ofRatio s.negative s.decimal
  rw [millis, held] at same
  unfold Double.ofRatio at rounded
  split at rounded
  · rw [rounded] at same ⊢
    change Double.ofRatio (s.negative != false) _ _ = _ at same
    unfold Double.ofRatio at same
    split at same
    · have sign := (Double.finite.inj same).1
      rw [Bool.bne_false] at sign
      rw [sign]
      exact ⟨rfl, _, rfl⟩
    · cases same
  · rw [rounded] at same
    change Double.mul _ _ = _ at same
    simp only [Double.mul] at same
    split at same <;> cases same

/-- A spelled interval with a moderate length has an exact length above zero, and the computed one is
two roundings away from it. -/
theorem near_of_moderate {s : Spelling} {n : Magnitude}
    (same : millis ⟨s.value, s.unit⟩ = .finite false n) (low : 1 / 2 ^ 23 < n.value)
    (high : n.value < 2 ^ 75) : 0 < s.length ∧ Near 2 n.value s.length := by
  obtain ⟨unsigned, m, value⟩ := exists_value_of_millis same
  have decimal : Double.Rounds s.decimal.value (.finite false m) := by
    have rounds := Double.rounds_ofDecimal s.decimal
    rwa [← unsigned, show Double.ofDecimal s.negative s.decimal = s.value from rfl, value] at rounds
  have product : Double.Rounds (m.value * s.unit.millis) (.finite false n) := by
    have rounds := rounds_millis m s.unit
    rwa [← value, same] at rounds
  have one := s.unit.one_le_millis
  have bounded : s.decimal.value < 2 ^ 75 := by
    apply decimal.lt_huge (by decide)
    exact (le_mul_of_one_le_right m.value_nonneg one).trans_lt (product.lt_huge (by decide) high)
  have moderate : s.length ≤ 2 ^ 112 := by
    rw [Spelling.length_of_unsigned unsigned]
    calc
      s.decimal.value * s.unit.millis ≤ 2 ^ 75 * 2 ^ 35 :=
        mul_le_mul bounded.le s.unit.millis_le (zero_le_one.trans one) (by positivity)
      _ ≤ 2 ^ 112 := by norm_num
  obtain ⟨n', same', tiny | ⟨large, near⟩⟩ := exists_millis unsigned moderate
  · rw [same] at same'
    cases same'
    have small := tiny.2
    norm_num at low small
    linarith
  · rw [same] at same'
    cases same'
    exact ⟨lt_trans (by positivity) large, near⟩

/-- A spelled interval whose decimal is exact and whose length is a short whole number of
milliseconds has this length exactly. -/
theorem millis_of_exact {s : Spelling} (unsigned : s.negative = false) (exact : s.Exact) {n : ℕ}
    (length : s.length = n) (short : n ≤ 2 ^ 53) :
    millis ⟨s.value, s.unit⟩ = .whole false n := by
  obtain ⟨m, same⟩ := exact
  obtain ⟨top, held, value⟩ := Double.exists_whole (Grid.held_of_le short)
  have decimal := Double.rounds_ofDecimal s.decimal
  rw [← Spelling.magnitude_of_unsigned unsigned, ← same] at decimal
  have product := rounds_millis m s.unit
  rw [same, show s.magnitude * s.unit.millis = s.length from rfl, length, ← value] at product
  rw [held, Spelling.value, unsigned, decimal.eq_of_value]
  exact product.eq_of_value

end Interval

end Vigil
