import Mathlib.Algebra.Order.BigOperators.Group.List
import Vigil.Proofs.Double.Signed

/-!
# Sums of numbers

A sum is added up from the left and rounded after every number but the first. Each rounding adds at
most one part in `2 ^ 53` of what was added up so far, so the error of a sum is a part of the sizes
of its numbers that grows with their count. A sum leaves the range only if the sizes nearly do. It
is monotone in all of its numbers, and it is exact for multiples of one power of two that are not
too large together.
-/

namespace Vigil

attribute [local irreducible] Grid.quantumBits

/-- The factor by which one rounding enlarges a number at most. -/
def growth : ℚ := 1 + 1 / 2 ^ 53

/-- No rounding is taken to shrink a bound. -/
theorem one_le_growth : 1 ≤ growth := by norm_num [growth]

/-- Nor are many roundings. -/
theorem one_le_growth_pow (k : ℕ) : 1 ≤ growth ^ k := one_le_pow₀ one_le_growth

namespace Double

variable {s t x y : Double} {xs ys : List Double}

/-- The exact sum of numbers. -/
def total (xs : List Double) : ℚ := (xs.map value).sum

/-- The exact sum of the sizes of numbers. -/
def size (xs : List Double) : ℚ := (xs.map fun x => |x.value|).sum

/-- One number more adds its value. -/
@[simp] theorem total_cons (x : Double) (xs : List Double) :
    total (x :: xs) = x.value + total xs := by
  simp [total]

/-- And its size. -/
@[simp] theorem size_cons (x : Double) (xs : List Double) :
    size (x :: xs) = |x.value| + size xs := by
  simp [size]

/-- Sizes are not below zero. -/
theorem size_nonneg (xs : List Double) : 0 ≤ size xs :=
  List.sum_nonneg (by simp only [List.mem_map]; rintro _ ⟨x, -, rfl⟩; exact abs_nonneg _)

/-- A sum is no larger than its sizes together. -/
theorem abs_total_le (xs : List Double) : |total xs| ≤ size xs := by
  induction xs with
  | nil => simp [total, size]
  | cons x xs ih =>
    rw [total_cons, size_cons]
    exact (abs_add_le _ _).trans (add_le_add_right ih _)

/-! ## One step -/

/-- A rounded sum of two numbers is as far from the exact one as one rounding enlarges it. -/
theorem add_error_le (finite : (s + x).isFinite = true) :
    |(s + x).value - (s.value + x.value)| ≤ (growth - 1) * (|s.value| + |x.value|) := by
  calc
    |(s + x).value - (s.value + x.value)| ≤ |s.value + x.value| / 2 ^ 53 := add_error finite
    _ ≤ (|s.value| + |x.value|) / 2 ^ 53 :=
      div_le_div_of_nonneg_right (abs_add_le _ _) (by norm_num)
    _ = (growth - 1) * (|s.value| + |x.value|) := by
      rw [growth]
      ring

/-- Its size is not more than the sizes of the numbers, enlarged by one rounding. -/
theorem abs_add_value_le (finite : (s + x).isFinite = true) :
    |(s + x).value| ≤ growth * (|s.value| + |x.value|) := by
  have error := add_error_le finite
  have exact := abs_add_le s.value x.value
  have apart := abs_sub_abs_le_abs_sub (s + x).value (s.value + x.value)
  linarith

/-! ## A whole sum -/

/-- A sum that stays in range is that of finite numbers. -/
theorem isFinite_of_foldl (finite : (xs.foldl add s).isFinite = true) : s.isFinite = true := by
  induction xs generalizing s with
  | nil => exact finite
  | cons x xs ih => exact (isFinite_of_add (ih finite)).1

/-- The error of a sum is a part of the sizes that grows with the roundings. -/
theorem foldl_add_error (finite : (xs.foldl add s).isFinite = true) :
    |(xs.foldl add s).value - (s.value + total xs)| ≤
      (growth ^ xs.length - 1) * (|s.value| + size xs) := by
  induction xs generalizing s with
  | nil => simp [total]
  | cons x xs ih =>
    have inRange : (s + x).isFinite = true := isFinite_of_foldl finite
    have many := one_le_growth_pow xs.length
    have sizes := size_nonneg xs
    have both : 0 ≤ |s.value| + |x.value| := by positivity
    calc
      |(xs.foldl add (s + x)).value - (s.value + total (x :: xs))|
          = |(xs.foldl add (s + x)).value - ((s + x).value + total xs) +
              ((s + x).value - (s.value + x.value))| := by
            rw [total_cons]
            congr 1
            ring
      _ ≤ (growth ^ xs.length - 1) * (|(s + x).value| + size xs) +
            (growth - 1) * (|s.value| + |x.value|) :=
          (abs_add_le _ _).trans (add_le_add (ih finite) (add_error_le inRange))
      _ ≤ (growth ^ xs.length - 1) * (growth * (|s.value| + |x.value|) + size xs) +
            (growth - 1) * (|s.value| + |x.value|) := by
          have enlarged := abs_add_value_le inRange
          gcongr
      _ ≤ (growth ^ xs.length * growth - 1) * (|s.value| + |x.value|) +
            (growth ^ xs.length * growth - 1) * size xs := by
          have next := le_mul_of_one_le_right (zero_le_one.trans many) one_le_growth
          have widened := mul_le_mul_of_nonneg_right (sub_le_sub_right next 1) sizes
          linarith
      _ = (growth ^ (x :: xs).length - 1) * (|s.value| + size (x :: xs)) := by
          rw [List.length_cons, pow_succ, size_cons]
          ring

/-- A sum of finite numbers stays in range when their sizes are in range after all roundings. -/
theorem isFinite_foldl_of_size (start : s.isFinite = true) (finite : ∀ x ∈ xs, x.isFinite = true)
    (small : (|s.value| + size xs) * growth ^ xs.length < overflow) :
    (xs.foldl add s).isFinite = true := by
  induction xs generalizing s with
  | nil => exact start
  | cons x xs ih =>
    obtain ⟨head, rest⟩ := List.forall_mem_cons.1 finite
    have sizes := size_nonneg xs
    have both : 0 ≤ |s.value| + |x.value| := by positivity
    rw [size_cons, ← add_assoc] at small
    have inRange : (s + x).isFinite = true := by
      rw [(rounded_add start head).isFinite_iff]
      calc
        |s.value + x.value| ≤ |s.value| + |x.value| := abs_add_le _ _
        _ ≤ (|s.value| + |x.value| + size xs) * 1 := by linarith
        _ ≤ (|s.value| + |x.value| + size xs) * growth ^ (x :: xs).length :=
          mul_le_mul_of_nonneg_left (one_le_growth_pow _) (by linarith)
        _ < overflow := small
    refine ih inRange rest (lt_of_le_of_lt ?_ small)
    change (|(s + x).value| + size xs) * growth ^ xs.length ≤ _
    rw [List.length_cons, pow_succ', ← mul_assoc]
    have enlarged := abs_add_value_le inRange
    have same := mul_le_mul_of_nonneg_right one_le_growth sizes
    have many := one_le_growth_pow xs.length
    refine mul_le_mul_of_nonneg_right ?_ (zero_le_one.trans many)
    linarith

/-- Sums are monotone in all of their numbers. -/
theorem foldl_add_mono (numbers : List.Forall₂ (fun x y => x.le y = true) xs ys)
    (first : ∀ x ∈ xs, x.isFinite = true) (second : ∀ y ∈ ys, y.isFinite = true)
    (start : s.le t = true) : (xs.foldl add s).le (ys.foldl add t) = true := by
  induction numbers generalizing s t with
  | nil => exact start
  | cons le numbers ih =>
    obtain ⟨head, rest⟩ := List.forall_mem_cons.1 first
    obtain ⟨head', rest'⟩ := List.forall_mem_cons.1 second
    exact ih rest rest' (add_mono start head head' le)

/-- The error of the sum of a list: the first number is not rounded. -/
theorem sum_error (finite : (sum xs).isFinite = true) :
    |(sum xs).value - total xs| ≤ (growth ^ (xs.length - 1) - 1) * size xs := by
  cases xs with
  | nil => simp [sum, total, size, value, negZero]
  | cons x xs =>
    rw [sum_cons] at finite ⊢
    simpa using foldl_add_error finite

/-- The sum of a list is no larger than the sizes after all roundings. -/
theorem abs_sum_le (finite : (sum xs).isFinite = true) :
    |(sum xs).value| ≤ growth ^ (xs.length - 1) * size xs := by
  have error := sum_error finite
  have exact := abs_total_le xs
  have apart := abs_sub_abs_le_abs_sub (sum xs).value (total xs)
  linarith

/-- The sum of finite numbers is finite when their sizes are in range after all roundings. -/
theorem isFinite_sum_of_size (finite : ∀ x ∈ xs, x.isFinite = true)
    (small : size xs * growth ^ (xs.length - 1) < overflow) : (sum xs).isFinite = true := by
  cases xs with
  | nil => rfl
  | cons x xs =>
    obtain ⟨head, rest⟩ := List.forall_mem_cons.1 finite
    rw [sum_cons]
    exact isFinite_foldl_of_size head rest (by simpa using small)

/-- The sum of a list is monotone in its numbers. -/
theorem sum_mono (numbers : List.Forall₂ (fun x y => x.le y = true) xs ys)
    (first : ∀ x ∈ xs, x.isFinite = true) (second : ∀ y ∈ ys, y.isFinite = true) :
    (sum xs).le (sum ys) = true :=
  foldl_add_mono numbers first second (by decide +kernel)

/-! ## Exact sums -/

/-- A power of two that is counted in quanta. -/
def grain (k : ℕ) : ℚ := Nat.pow 2 k / Grid.one

/-- Powers of two are positive. -/
theorem grain_pos (k : ℕ) : 0 < grain k :=
  div_pos (Nat.cast_pos.2 (Grid.pow_pos k)) Grid.one_pos_rat

/-- One is such a power. -/
theorem grain_quantumBits : grain Grid.quantumBits = 1 := by
  have unit : Nat.pow 2 Grid.quantumBits = Grid.one := rfl
  rw [grain, unit, div_self (ne_of_gt Grid.one_pos_rat)]

/-- A finite number that is a whole multiple of a power of two. -/
structure Multiple (k : ℕ) (x : Double) : Prop where
  finite : x.isFinite = true
  whole : ∃ n : ℤ, x.value = n * grain k

/-- Whole numbers are multiples of one. -/
theorem multiple_ofNat {n : ℕ} (short : n ≤ 2 ^ 53) :
    Multiple Grid.quantumBits (ofNat n) ∧ (ofNat n).value = n := by
  obtain ⟨m, same, exact⟩ := exists_whole (Grid.held_of_le short)
  have valued : (ofNat n).value = n := by rw [ofNat_eq_whole, same, value, exact]
  refine ⟨⟨by rw [ofNat_eq_whole, same]; rfl, n, ?_⟩, valued⟩
  rw [grain_quantumBits, mul_one, valued, Int.cast_natCast]

/-- Multiples that are not too large are numbers. -/
theorem exists_multiple {k : ℕ} {n : ℤ} (low : k ≤ 970 + Grid.quantumBits)
    (short : |n * grain k| ≤ 2 ^ 53 * grain k) :
    ∃ held : Double, held.isFinite = true ∧ held.value = n * grain k := by
  have magnitude {m : ℕ} (short : (m : ℚ) * grain k ≤ 2 ^ 53 * grain k) :
      ∃ held : Magnitude, held.value = m * grain k := by
    have few : m ≤ 2 ^ 53 := by exact_mod_cast le_of_mul_le_mul_right short (grain_pos k)
    have below : m * Nat.pow 2 k < Grid.bound := by
      calc
        m * Nat.pow 2 k ≤ Nat.pow 2 53 * Nat.pow 2 k := Nat.mul_le_mul_right _ few
        _ = Nat.pow 2 (53 + k) := Grid.pow_mul_pow _ _
        _ < Grid.bound := by
          unfold Grid.bound Grid.topBits
          exact Grid.pow_lt_pow (by omega)
    exact ⟨⟨_, Grid.fits_mul_two_pow k few, below⟩, by
      rw [Magnitude.value, Nat.cast_mul, mul_div_assoc, grain]⟩
  rw [abs_mul, abs_of_pos (grain_pos k)] at short
  obtain ⟨m, rfl | rfl⟩ := n.eq_nat_or_neg
  · obtain ⟨held, exact⟩ := magnitude (m := m) (by simpa using short)
    exact ⟨.finite false held, rfl, by rw [value, exact, Int.cast_natCast]⟩
  · obtain ⟨held, exact⟩ := magnitude (m := m) (by simpa using short)
    exact ⟨.finite true held, rfl, by rw [value, exact, Int.cast_neg, Int.cast_natCast, neg_mul]⟩

/-- Multiples that are not too large together are added up without an error. -/
theorem foldl_add_exact {k : ℕ} (low : k ≤ 970 + Grid.quantumBits) (start : Multiple k s)
    (multiples : ∀ x ∈ xs, Multiple k x) (small : |s.value| + size xs ≤ 2 ^ 53 * grain k) :
    (xs.foldl add s).isFinite = true ∧ (xs.foldl add s).value = s.value + total xs := by
  induction xs generalizing s with
  | nil => exact ⟨start.finite, (add_zero _).symm⟩
  | cons x xs ih =>
    obtain ⟨head, rest⟩ := List.forall_mem_cons.1 multiples
    obtain ⟨n, first⟩ := start.whole
    obtain ⟨m, second⟩ := head.whole
    have sizes := size_nonneg xs
    have both := abs_add_le s.value x.value
    rw [size_cons] at small
    have multiple : s.value + x.value = ((n + m : ℤ) : ℚ) * grain k := by
      rw [first, second, Int.cast_add, add_mul]
    obtain ⟨held, finite, exact⟩ := exists_multiple low (n := n + m) (by
      rw [← multiple]
      linarith)
    obtain ⟨inRange, valued⟩ := (rounded_add start.finite head.finite).eq_value finite
      (exact.trans multiple.symm)
    obtain ⟨kept, same⟩ := ih (s := s + x) ⟨inRange, n + m, valued.trans multiple⟩ rest (by
      rw [valued]
      linarith)
    exact ⟨kept, by rw [total_cons, ← add_assoc, ← valued]; exact same⟩

/-- So is a whole list of them. -/
theorem sum_exact {k : ℕ} (low : k ≤ 970 + Grid.quantumBits) (multiples : ∀ x ∈ xs, Multiple k x)
    (small : size xs ≤ 2 ^ 53 * grain k) :
    (sum xs).isFinite = true ∧ (sum xs).value = total xs := by
  cases xs with
  | nil => exact ⟨rfl, by simp [sum, total, value, negZero]⟩
  | cons x xs =>
    obtain ⟨head, rest⟩ := List.forall_mem_cons.1 multiples
    rw [sum_cons, total_cons]
    exact foldl_add_exact low head rest (by rwa [size_cons] at small)

end Double

end Vigil
