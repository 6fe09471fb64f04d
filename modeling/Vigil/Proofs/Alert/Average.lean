import Vigil.Proofs.Alert.Recall
import Vigil.Proofs.Double.Mean
import Vigil.Rule.Evaluation

/-!
# Means of histories

The mean of a history is that of the samples it retains, and an unmodified comparison with the mean
of a full history resolves to it. It is within the slack of rounding of their exact average, and
between the means of histories that are as long and hold the least sample only, or the greatest one
only. It need not lie between the least and the greatest sample, not even when they are all the
same: for that the rounded sum has to lie where an exact one does. Then the mean of a steady history
is its sample, and no strict comparison with the mean matches that sample.
-/

namespace Vigil

attribute [local irreducible] Grid.quantumBits

namespace History

variable {capacity : ℕ} {values : List Double}

/-- A history with samples has their mean. -/
theorem mean_eq (h : History) (some : h.samples ≠ []) : h.mean = .some (Double.mean h.samples) := by
  rw [mean, if_neg (by simpa using some)]
  rfl

/-- A history into which values were pushed retains one at least. -/
theorem samples_ofValues_ne_nil (nonempty : values ≠ []) :
    (ofValues capacity values).samples ≠ [] := by
  have pos := List.length_pos_of_ne_nil nonempty
  apply List.ne_nil_of_length_pos
  rw [samples_ofValues, length_latest]
  omega

/-- What it retains was pushed. -/
theorem mem_of_mem_samples {x : Double} (member : x ∈ (ofValues capacity values).samples) :
    x ∈ values := by
  rw [samples_ofValues, latest] at member
  exact List.mem_of_mem_drop member

/-- An unmodified comparison with the mean of a full history resolves to it. -/
theorem resolve_of_isFull {h : History} (full : h.isFull = true) (some : h.samples ≠ [])
    (comparator : Comparator) :
    Comparison.resolve ⟨comparator, .historical, .unchanged⟩ (.some h) =
      .some (Double.mean h.samples) := by
  simp [Comparison.resolve, Option.filter, full, mean_eq h some, Modifier.apply]

/-- A number is neither above nor below an equal one, nor different from it. -/
theorem not_holds_of_same {comparator : Comparator} {x y : Double} (same : y.same x = true)
    (strict : comparator ∈ [Comparator.greater, .less, .notEqual]) :
    comparator.holds x y = false := by
  obtain ⟨a, place, place'⟩ := Double.same_iff.1 same
  have still {x y : Double} (first : x.place = some a) (second : y.place = some a) :
      x.lt y = false := by
    rw [← Bool.not_eq_true, Double.lt_iff_of_place first second]
    exact Int.lt_irrefl a
  simp only [List.mem_cons, List.not_mem_nil, or_false] at strict
  rcases strict with rfl | rfl | rfl
  · exact still place place'
  · exact still place' place
  · simp [Comparator.holds, Double.same_iff.2 ⟨a, place', place⟩]

/-- After finite values the mean is as follows. It is finite exactly when the rounded sum of the
retained samples is, and then within their slack of the average. For bounds of the samples it lies
between the means of as long histories of nothing but a bound, and between the bounds themselves
when the rounded sum is in the span of the samples. Once the history is full, an unmodified comparison
resolves to it; where all samples are one number and their sum is in its span, this is that number,
and no strict comparison matches it. -/
theorem mean_of_values (capacity : ℕ) (nonempty : values ≠ [])
    (finite : ∀ x ∈ values, x.isFinite = true) :
    let history := ofValues capacity values
    let samples := history.samples
    ∃ m, history.mean = some m ∧
      (m.isFinite = true ↔ (Double.sum samples).isFinite = true) ∧
      (Double.size samples * growth ^ (samples.length - 1) < Double.overflow → m.isFinite = true) ∧
      (m.isFinite = true → |m.value - Double.average samples| ≤ Double.slack samples) ∧
      (∀ least greatest : Double, least.isFinite = true → greatest.isFinite = true →
        (∀ x ∈ samples, least.le x = true ∧ x.le greatest = true) →
          (samples.length ≤ 2 ^ 64 → (Double.steady samples.length least).le m = true ∧
            m.le (Double.steady samples.length greatest) = true) ∧
          (Double.InSpan samples → least.le m = true ∧ m.le greatest = true)) ∧
      (history.isFull = true → ∀ comparator,
        let comparison : Comparison := ⟨comparator, .historical, .unchanged⟩
        comparison.resolve (some history) = some m ∧
          ∀ c : Double, (∀ x ∈ samples, x.same c = true) → Double.InSpan samples →
            m.same c = true ∧ (comparator ∈ [.greater, .less, .notEqual] →
              comparison.holds c (some history) = false)) := by
  intro history samples
  have retained : samples ≠ [] := samples_ofValues_ne_nil nonempty
  have inRange : ∀ x ∈ samples, x.isFinite = true := fun x member =>
    finite x (mem_of_mem_samples member)
  refine ⟨Double.mean samples, mean_eq history retained, Double.isFinite_mean_iff retained,
    fun small => (Double.isFinite_mean_iff retained).2 (Double.isFinite_sum_of_size inRange small),
    Double.mean_error retained, ?_, ?_⟩
  · intro least greatest first last bounds
    exact ⟨fun word => Double.mean_between_steady retained word inRange first last bounds,
      fun span => span.mean_between retained inRange first last bounds⟩
  · intro full comparator comparison
    have resolved := resolve_of_isFull full retained comparator
    refine ⟨resolved, fun c equal span => ?_⟩
    have same := span.mean_same retained inRange equal
    refine ⟨same, fun strict => ?_⟩
    rw [Comparison.holds, resolved]
    exact not_holds_of_same same strict

/-- After one and three twos, a history of three samples has the mean two, and nothing differs. -/
theorem mean_of_three_twos :
    ([1, 2, 2, 2] : List Double) ≠ [] ∧ (∀ x ∈ ([1, 2, 2, 2] : List Double), x.isFinite = true) ∧
      ∃ m, (ofValues 3 [1, 2, 2, 2]).mean = some m ∧ m.same 2 = true ∧
        Comparison.holds ⟨.notEqual, .historical, .unchanged⟩ 2 (some (ofValues 3 [1, 2, 2, 2])) =
          false := by
  have nonempty : ([1, 2, 2, 2] : List Double) ≠ [] := List.cons_ne_nil _ _
  have finite : ∀ x ∈ ([1, 2, 2, 2] : List Double), x.isFinite = true := by decide +kernel
  have full : (ofValues 3 [1, 2, 2, 2]).isFull = true := by decide +kernel
  have retained : (ofValues 3 [1, 2, 2, 2]).samples = List.replicate 3 (Double.ofNat 2) := by
    decide +kernel
  obtain ⟨multiple, two⟩ := Double.multiple_ofNat (n := 2) (by decide)
  have span : Double.InSpan (List.replicate 3 (Double.ofNat 2)) :=
    .of_multiples (by decide) (Nat.le_add_left _ _) (fun x member => by
      rw [List.eq_of_mem_replicate member]
      exact multiple) (by
      rw [Double.grain_quantumBits]
      norm_num [Double.size, two])
  obtain ⟨m, mean, -, -, -, -, steady⟩ := mean_of_values 3 nonempty finite
  obtain ⟨same, still⟩ := (steady full .notEqual).2 2 (by
    rw [retained]
    decide +kernel) (by rwa [retained])
  exact ⟨nonempty, finite, m, mean, same, still (by decide)⟩

/-- Three samples of one tenth have a mean above one tenth, so one tenth differs from it. -/
theorem mean_of_three_tenths_is_greater :
    ∃ tenth : Double, tenth.isFinite = true ∧ (ofValues 3 [tenth, tenth, tenth]).isFull = true ∧
      (ofValues 3 [tenth, tenth, tenth]).samples = [tenth, tenth, tenth] ∧
      (∃ m, (ofValues 3 [tenth, tenth, tenth]).mean = some m ∧ m.le tenth = false) ∧
      Comparison.holds ⟨.notEqual, .historical, .unchanged⟩ tenth
        (some (ofValues 3 [tenth, tenth, tenth])) = true := by
  obtain ⟨tenth, read⟩ : ∃ tenth, tenth = Double.ofDecimal false ⟨1, -1⟩ := ⟨_, rfl⟩
  have greater : (ofValues 3 [tenth, tenth, tenth]).mean.map (·.le tenth) = some false := by
    subst read
    decide +kernel
  refine ⟨tenth, ?_, ?_, ?_, Option.map_eq_some_iff.1 greater, ?_⟩ <;> subst read <;>
    decide +kernel

end History

end Vigil
