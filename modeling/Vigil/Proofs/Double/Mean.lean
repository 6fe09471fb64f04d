import Mathlib.Algebra.Order.Ring.Pow
import Vigil.Proofs.Double.Sum

/-!
# Means of numbers

A mean is a rounded sum, divided by the rounded count and rounded again. It is off the exact average
by as many roundings as there are numbers and one more, and by half a quantum. It is monotone, so it
lies between the means of as many numbers that are all the least one, or all the greatest one. It
lies between the least and the greatest number themselves when the rounded sum does so by itself.
-/

namespace Vigil

attribute [local irreducible] Grid.quantumBits

namespace Double

variable {x c : Double} {xs ys : List Double} {k : ℕ}

/-- The sum of numbers, divided by their count. -/
def mean (xs : List Double) : Double := sum xs / ofNat xs.length

/-- The exact average of numbers. -/
def average (xs : List Double) : ℚ := total xs / xs.length

/-- How far a mean can be off the average: by one rounding for each sum, for the count and for the
quotient. -/
def slack (xs : List Double) : ℚ :=
  (growth ^ (xs.length + 1) - 1) * (size xs / xs.length) + 1 / (2 * Grid.one)

/-- The mean of as many numbers that are all the same. -/
def steady (k : ℕ) (c : Double) : Double := mean (List.replicate k c)

/-! ## The count -/

/-- A positive count is not below one. -/
theorem isUnitOrMore_ofNat (pos : 0 < k) : (ofNat k).isUnitOrMore = true :=
  isUnitOrMore_ofRatio Nat.one_pos (Nat.mul_le_mul_right _ pos)

/-- A positive count in range is rounded by a part of itself. -/
theorem exists_ofNat (pos : 0 < k) (finite : (ofNat k).isFinite = true) :
    ∃ b : Magnitude, ofNat k = .finite false b ∧ 0 < b.value ∧
      |b.value - k| ≤ b.value / 2 ^ 53 := by
  obtain ⟨b, same⟩ := (rounds_whole k).exists_magnitude finite
  have large := isUnitOrMore_ofNat pos
  have normal : 2 ^ 52 ≤ k * Grid.one / 1 := by
    simpa using Grid.normal_of_pos pos Nat.one_pos (by decide)
  obtain ⟨up, down⟩ := Grid.nearest_error_self Nat.one_pos normal
  rw [← count_of_ofRatio same, Nat.one_mul] at up down
  have up' : (2 : ℚ) ^ 53 * b.count ≤ 2 ^ 53 * (k * Grid.one) + b.count := by exact_mod_cast up
  have down' : (2 : ℚ) ^ 53 * (k * Grid.one) ≤ 2 ^ 53 * b.count + b.count := by exact_mod_cast down
  have exact : (k : ℚ) = k * Grid.one / Grid.one := by
    rw [mul_div_cancel_right₀ _ (ne_of_gt Grid.one_pos_rat)]
  refine ⟨b, same, ?_, ?_⟩
  · rw [ofNat_eq_whole, same] at large
    simp only [isUnitOrMore, Bool.not_false, Bool.true_and, decide_eq_true_eq] at large
    exact Magnitude.value_pos_iff.2 (Nat.lt_of_lt_of_le Grid.one_pos large)
  · rw [exact, Magnitude.value, div_right_comm, Grid.abs_sub_le_iff_quanta]
    constructor <;> linarith

/-- A count out of range is infinite. -/
theorem ofNat_eq_infinity (outside : (ofNat k).isFinite ≠ true) : ofNat k = .infinite false := by
  unfold ofNat ofRatio at outside ⊢
  split
  · exact absurd (by rw [dif_pos ‹_›]; rfl) outside
  · rfl

/-! ## The error -/

/-- Dividing by a divisor that is off by one rounding adds one rounding to the error. -/
theorem div_error {sum total size many count divisor : ℚ} (pos : 0 < count) (pos' : 0 < divisor)
    (close : |divisor - count| ≤ divisor / 2 ^ 53) (error : |sum - total| ≤ (many - 1) * size)
    (bound : |sum| ≤ many * size) :
    |sum / divisor - total / count| ≤ (many * growth - 1) * (size / count) := by
  have split : sum / divisor - total / count =
      (sum - total) / count - sum * ((divisor - count) / divisor) / count := by
    field_simp
    ring
  have moved : |sum * ((divisor - count) / divisor)| ≤ many * size / 2 ^ 53 := by
    calc
      |sum * ((divisor - count) / divisor)| = |sum| * (|divisor - count| / divisor) := by
        rw [abs_mul, abs_div, abs_of_pos pos']
      _ ≤ |sum| * (divisor / 2 ^ 53 / divisor) := by gcongr
      _ = |sum| / 2 ^ 53 := by field_simp
      _ ≤ many * size / 2 ^ 53 := by gcongr
  calc
    |sum / divisor - total / count|
        ≤ |(sum - total) / count| + |sum * ((divisor - count) / divisor) / count| := by
          rw [split]
          exact abs_sub _ _
    _ = |sum - total| / count + |sum * ((divisor - count) / divisor)| / count := by
          rw [abs_div, abs_div _ count, abs_of_pos pos]
    _ ≤ (many - 1) * size / count + many * size / 2 ^ 53 / count := by gcongr
    _ = (many * growth - 1) * (size / count) := by
          rw [growth]
          ring

/-- The average is no larger than the sizes are on average. -/
theorem abs_average_le (xs : List Double) : |average xs| ≤ size xs / xs.length := by
  rw [average, abs_div, Nat.abs_cast]
  exact div_le_div_of_nonneg_right (abs_total_le xs) (Nat.cast_nonneg _)

/-- More than `2 ^ 64` roundings double a bound. -/
theorem two_le_growth_pow (many : 2 ^ 64 < k) : 2 ≤ growth ^ k := by
  have enough : (2 : ℚ) ^ 53 ≤ k := by
    calc
      (2 : ℚ) ^ 53 = ((2 ^ 53 : ℕ) : ℚ) := by norm_num
      _ ≤ k := Nat.cast_le.2 (by omega)
  have linear : 1 + (k : ℚ) * (1 / 2 ^ 53) ≤ (1 + 1 / 2 ^ 53) ^ k :=
    one_add_mul_le_pow (by norm_num) k
  rw [growth]
  linarith

/-- A mean is finite exactly when the rounded sum is. -/
theorem isFinite_mean_iff (nonempty : xs ≠ []) :
    (mean xs).isFinite = true ↔ (sum xs).isFinite = true :=
  isFinite_div_iff (isUnitOrMore_ofNat (List.length_pos_of_ne_nil nonempty))

/-- More numbers than can be counted in range have the mean zero. -/
theorem mean_value_of_infinity (inRange : (sum xs).isFinite = true)
    (outside : (ofNat xs.length).isFinite ≠ true) : (mean xs).value = 0 := by
  obtain ⟨negative, m, same⟩ := exists_of_isFinite inRange
  rw [mean, ofNat_eq_infinity outside, same]
  exact value_zero (negative != false)

/-- The mean of finite numbers is within its slack of the average. -/
theorem mean_error (nonempty : xs ≠ []) (finite : (mean xs).isFinite = true) :
    |(mean xs).value - average xs| ≤ slack xs := by
  have pos := List.length_pos_of_ne_nil nonempty
  have inRange := (isFinite_mean_iff nonempty).1 finite
  have sizes : 0 ≤ size xs / xs.length := div_nonneg (size_nonneg xs) (Nat.cast_nonneg _)
  have half : (0 : ℚ) ≤ 1 / (2 * Grid.one) := by positivity
  have least := abs_average_le xs
  rw [slack]
  by_cases few : (ofNat xs.length).isFinite = true
  · obtain ⟨b, count, divisor, close⟩ := exists_ofNat pos few
    have many : growth ^ (xs.length - 1) * growth = growth ^ xs.length := by
      rw [← pow_succ, Nat.sub_add_cancel pos]
    have quotient := div_error (Nat.cast_pos.2 pos) divisor close (sum_error inRange)
      (abs_sum_le inRange)
    rw [many, ← average] at quotient
    rw [mean, count] at finite ⊢
    have rounding := (rounded_div inRange divisor).error finite
    have reach := abs_sub_abs_le_abs_sub ((sum xs).value / b.value) (average xs)
    have apart := abs_sub_le (sum xs / .finite false b).value ((sum xs).value / b.value)
      (average xs)
    have part : |(sum xs).value / b.value| / 2 ^ 53 ≤
        growth ^ xs.length * (size xs / xs.length) / 2 ^ 53 :=
      div_le_div_of_nonneg_right (by linarith) (by norm_num)
    have next : growth ^ (xs.length + 1) * (size xs / xs.length) =
        growth ^ xs.length * (size xs / xs.length) +
          growth ^ xs.length * (size xs / xs.length) / 2 ^ 53 := by
      rw [pow_succ, growth]
      ring
    linarith
  · have huge : 2 ^ 64 < xs.length := Nat.not_le.1 fun word => few (isFinite_ofNat word)
    have double : 2 ≤ growth ^ (xs.length + 1) := two_le_growth_pow (Nat.lt_succ_of_lt huge)
    have widened := mul_le_mul_of_nonneg_right double sizes
    rw [mean_value_of_infinity inRange few, zero_sub, abs_neg]
    linarith

/-! ## Bounds -/

/-- Means of as many numbers are monotone in them. -/
theorem mean_mono (numbers : List.Forall₂ (fun x y => x.le y = true) xs ys)
    (first : ∀ x ∈ xs, x.isFinite = true) (second : ∀ y ∈ ys, y.isFinite = true)
    (nonempty : xs ≠ []) (word : xs.length ≤ 2 ^ 64) : (mean xs).le (mean ys) = true := by
  obtain ⟨b, count, divisor, -⟩ :=
    exists_ofNat (List.length_pos_of_ne_nil nonempty) (isFinite_ofNat word)
  rw [mean, mean, ← numbers.length_eq, count]
  exact div_mono (sum_mono numbers first second) divisor

/-- A relation to all numbers is one of as many copies to the numbers. -/
theorem forall₂_replicate {R : Double → Double → Prop} (related : ∀ x ∈ xs, R c x) :
    List.Forall₂ R (List.replicate xs.length c) xs := by
  induction xs with
  | nil => exact .nil
  | cons x xs ih =>
    obtain ⟨head, rest⟩ := List.forall_mem_cons.1 related
    exact .cons head (ih rest)

/-- A mean lies between the means of as many numbers that are all a lower bound, or all an upper
one. -/
theorem mean_between_steady {least greatest : Double} (nonempty : xs ≠ [])
    (word : xs.length ≤ 2 ^ 64) (finite : ∀ x ∈ xs, x.isFinite = true)
    (first : least.isFinite = true) (last : greatest.isFinite = true)
    (bounds : ∀ x ∈ xs, least.le x = true ∧ x.le greatest = true) :
    (steady xs.length least).le (mean xs) = true ∧
      (mean xs).le (steady xs.length greatest) = true := by
  have below : List.Forall₂ (fun x y => x.le y = true) (List.replicate xs.length least) xs :=
    forall₂_replicate fun x member => (bounds x member).1
  have above : List.Forall₂ (fun x y => x.le y = true) xs (List.replicate xs.length greatest) :=
    .flip (forall₂_replicate fun x member => (bounds x member).2)
  have some : List.replicate xs.length least ≠ [] := by simpa using nonempty
  exact ⟨mean_mono below (by simp [first]) finite some (by simpa using word),
    mean_mono above finite (by simp [last]) nonempty word⟩

/-- The rounded sum of numbers lies where the exact sum can lie: between the multiples of any lower
bound and of any upper bound of the numbers. -/
structure InSpan (xs : List Double) : Prop where
  few : xs.length ≤ 2 ^ 53
  finite : (sum xs).isFinite = true
  above : ∀ least : ℚ, (∀ x ∈ xs, least ≤ x.value) → xs.length * least ≤ (sum xs).value
  below : ∀ greatest : ℚ, (∀ x ∈ xs, x.value ≤ greatest) → (sum xs).value ≤ xs.length * greatest

/-- A sum without an error does. -/
theorem InSpan.of_exact (few : xs.length ≤ 2 ^ 53) (finite : (sum xs).isFinite = true)
    (exact : (sum xs).value = total xs) : InSpan xs := by
  refine ⟨few, finite, ?_, ?_⟩
  · intro least bound
    have exactSum := (xs.map value).card_nsmul_le_sum least (by simpa using bound)
    rwa [List.length_map, nsmul_eq_mul, ← total, ← exact] at exactSum
  · intro greatest bound
    have exactSum := (xs.map value).sum_le_card_nsmul greatest (by simpa using bound)
    rwa [List.length_map, nsmul_eq_mul, ← total, ← exact] at exactSum

/-- So does the sum of multiples of one power of two that are not too large together. -/
theorem InSpan.of_multiples (few : xs.length ≤ 2 ^ 53) (low : k ≤ 970 + Grid.quantumBits)
    (multiples : ∀ x ∈ xs, Multiple k x) (small : size xs ≤ 2 ^ 53 * grain k) : InSpan xs :=
  have sum := sum_exact low multiples small
  .of_exact few sum.1 sum.2

/-- Then the mean lies between any bounds of the numbers. -/
theorem InSpan.mean_between {least greatest : Double} (span : InSpan xs) (nonempty : xs ≠ [])
    (finite : ∀ x ∈ xs, x.isFinite = true) (first : least.isFinite = true)
    (last : greatest.isFinite = true)
    (bounds : ∀ x ∈ xs, least.le x = true ∧ x.le greatest = true) :
    least.le (mean xs) = true ∧ (mean xs).le greatest = true := by
  obtain ⟨b, count, exact⟩ := exists_whole (Grid.held_of_le span.few)
  have pos : (0 : ℚ) < xs.length := Nat.cast_pos.2 (List.length_pos_of_ne_nil nonempty)
  have divisor : 0 < b.value := by rwa [exact]
  rw [mean, ofNat_eq_whole, count]
  refine (rounded_div span.finite divisor).between first last ?_ ?_
  · rw [exact, le_div_iff₀' pos]
    exact span.above _ fun x member => (le_iff_value first (finite x member)).1 (bounds x member).1
  · rw [exact, div_le_iff₀' pos]
    exact span.below _ fun x member => (le_iff_value (finite x member) last).1 (bounds x member).2

/-- The mean of numbers that all equal one number equals it too. -/
theorem InSpan.mean_same (span : InSpan xs) (nonempty : xs ≠ [])
    (finite : ∀ x ∈ xs, x.isFinite = true) (equal : ∀ x ∈ xs, x.same c = true) :
    (mean xs).same c = true := by
  obtain ⟨x, member⟩ := List.exists_mem_of_ne_nil xs nonempty
  have number := isFinite_of_same (equal x member) (finite x member)
  obtain ⟨below, above⟩ := span.mean_between nonempty finite number number fun x member => by
    have value := (same_iff_value (finite x member) number).1 (equal x member)
    exact ⟨(le_iff_value number (finite x member)).2 value.ge,
      (le_iff_value (finite x member) number).2 value.le⟩
  exact same_of_le_of_le above below

end Double

end Vigil
