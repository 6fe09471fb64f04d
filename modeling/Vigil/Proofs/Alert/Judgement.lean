import Vigil.Proofs.Alert.Recall
import Vigil.Proofs.Double.Order

/-!
# Judging a value by the past

The engine judges a value by a bounded history that it keeps from sample to sample. The
same judgement is stated here without a state, from all values of the target so far: a
historical threshold is the mean of the last of them, once there are as many as the
history has room for, and before that every comparison with it is false. After any run
the two agree, so nothing but the earlier values of the target has a part in the
judgement.

The reference shares nothing with the engine but the arithmetic of numbers: what a modifier
does to its threshold, which places on the line a comparator relates and how connectives are
taken from the left are written out here, and each is proved to be what the engine does.
-/

namespace Vigil

/-- The mean of values: their sum from the left, divided once by their number. -/
def meanOf : List Double → Option Double
  | [] => none
  | first :: rest => some (rest.foldl Double.add first / Double.ofNat (rest.length + 1))

/-- The threshold before its change, from the values so far: the number itself, or the mean of the
last values once there are as many as there is room for. -/
def Threshold.over (room : Nat) (past : List Double) : Threshold → Option Double
  | value x => some x
  | historical => if past.length < room then none else meanOf (past.drop (past.length - room))

/-- The threshold after its change: the sign says which of the four operations is taken, with the
threshold on its left. -/
def Modifier.changed : Modifier → Double → Double
  | unchanged, base => base
  | arithmetic .multiply operand, base => base * operand
  | arithmetic .divide operand, base => base / operand
  | arithmetic .add operand, base => base + operand
  | arithmetic .subtract operand, base => base - operand

/-- Whether two numbers are related as a comparator says, by their places on the line. Not-a-number
has no place and only differs, from itself too. -/
def Comparator.relates (comparator : Comparator) (value threshold : Double) : Bool :=
  match value.place, threshold.place with
  | some v, some t =>
      match comparator with
      | greater => t < v
      | greaterOrEqual => t ≤ v
      | less => v < t
      | lessOrEqual => v ≤ t
      | equal => v = t
      | notEqual => v ≠ t
  | _, _ => comparator = notEqual

/-- Whether a value passes a comparison after the values so far. Without a threshold it does not,
whatever the comparator. -/
def Comparison.holdsOver (comparison : Comparison) (room : Nat) (past : List Double)
    (value : Double) : Bool :=
  match comparison.threshold.over room past with
  | some base => comparison.comparator.relates value (comparison.modifier.changed base)
  | none => false

namespace Rule

/-- The truth of a chain after the truth of what stands before it: AND and OR bind alike, and each
joins all that stands before it to the one comparison after it. -/
def truthAfter (truth : Bool) : List (Connective × Bool) → Bool
  | [] => truth
  | (.both, next) :: rest => truthAfter (truth && next) rest
  | (.either, next) :: rest => truthAfter (truth || next) rest

/-- Whether a rule holds for a value after the values so far, its connectives taken from the
left. -/
def holdsOver (rule : Rule) (room : Nat) (past : List Double) (value : Double) : Bool :=
  truthAfter (rule.head.holdsOver room past value)
    (rule.chain.map fun link => (link.1, link.2.holdsOver room past value))

/-- The first rule that holds for a value after the values so far. -/
def firstOver (rules : List Rule) (room : Nat) (past : List Double) (value : Double) :
    Option Rule :=
  rules.find? fun rule => rule.holdsOver room past value

end Rule

/-- The report of a sample after the values of its target so far: of missing data if it has no
value, and otherwise of the first rule that holds, or of a normal level if none does. -/
def Report.ofSample (alert : Alert) (room : Nat) (past : List Double) (sample : Sample) : Report :=
  match sample.value with
  | none => ⟨sample.target, alert.noData, .noData, .source, none⟩
  | some value =>
      let rule := Rule.firstOver alert.rules room past value
      ⟨sample.target, (rule.map (·.level)).getD .normal, .number value, .source, rule⟩

namespace History

/-- The mean of a history is the mean of its samples. -/
theorem mean_eq_meanOf (h : History) : h.mean = meanOf h.samples := by
  unfold mean
  cases h.samples with
  | nil => rfl
  | cons first rest =>
    rw [Double.sum_cons]
    rfl

/-- A recalled history gives a mean to rules once enough values were seen. -/
theorem mean_recalled (capacity : Nat) (past : List Double) :
    ((recalled capacity past).filter isFull).bind mean =
      Threshold.historical.over (max capacity 1) past := by
  have room : 0 < max capacity 1 := by omega
  cases past with
  | nil => simp [recalled, Threshold.over, room]
  | cons first rest =>
    have begun : recalled capacity (first :: rest) = some (ofValues capacity (first :: rest)) := rfl
    have full := isFull_ofValues_iff capacity (first :: rest)
    by_cases filling : (first :: rest).length < max capacity 1
    · have notFull : (ofValues capacity (first :: rest)).isFull = false := by
        rw [← Bool.not_eq_true, full]
        omega
      simp only [begun, Option.filter, notFull, Bool.false_eq_true, if_false, Option.bind_none,
        Threshold.over, filling, if_true]
    · have isFull : (ofValues capacity (first :: rest)).isFull = true := full.2 (by omega)
      simp only [begun, Option.filter, isFull, if_true, Option.bind_some, mean_eq_meanOf,
        samples_ofValues, latest, Threshold.over, filling, if_false]

end History

open History

/-- A modifier changes a threshold by the operation of its sign. -/
theorem Modifier.apply_eq_changed (modifier : Modifier) (base : Double) :
    modifier.apply base = modifier.changed base := by
  cases modifier with
  | unchanged => rfl
  | arithmetic op operand => cases op <;> rfl

/-- A comparator holds for the numbers whose places it relates. -/
theorem Comparator.holds_eq_relates (comparator : Comparator) (value threshold : Double) :
    comparator.holds value threshold = comparator.relates value threshold := by
  unfold relates
  cases first : value.place with
  | none =>
    cases comparator <;> simp [holds, Double.lt, Double.le, Double.same, Double.compare?, first]
  | some v =>
    cases second : threshold.place with
    | none =>
      cases comparator <;>
        simp [holds, Double.lt, Double.le, Double.same, Double.compare?, first, second]
    | some t =>
      rw [Bool.eq_iff_iff]
      cases comparator with
      | greater => simpa [holds] using Double.lt_iff_of_place second first
      | greaterOrEqual => simpa [holds] using Double.le_iff_of_place second first
      | less => simpa [holds] using Double.lt_iff_of_place first second
      | lessOrEqual => simpa [holds] using Double.le_iff_of_place first second
      | equal => simpa [holds] using Double.same_iff_of_place first second
      | notEqual =>
        simpa [holds, ← Bool.not_eq_true] using not_congr (Double.same_iff_of_place first second)

/-- Joining comparisons one after another gives the truth of their chain. -/
theorem Rule.foldl_join_eq_truthAfter (holds : Comparison → Bool)
    (chain : List (Connective × Comparison)) (truth : Bool) :
    chain.foldl (fun truth link => link.1.join truth (holds link.2)) truth =
      truthAfter truth (chain.map fun link => (link.1, holds link.2)) := by
  induction chain generalizing truth with
  | nil => rfl
  | cons link rest ih =>
    obtain ⟨connective, comparison⟩ := link
    cases connective <;> exact ih _

/-- A recalled history resolves a threshold as the values so far do. -/
theorem Comparison.resolve_recalled (comparison : Comparison) (capacity : Nat)
    (past : List Double) :
    comparison.resolve (recalled capacity past) =
      (comparison.threshold.over (max capacity 1) past).map comparison.modifier.changed := by
  unfold resolve
  rw [funext (Modifier.apply_eq_changed comparison.modifier)]
  cases comparison.threshold with
  | value x => rfl
  | historical => simp only [mean_recalled]

/-- A comparison holds by a recalled history as it does by the values so far. -/
theorem Comparison.holds_recalled (comparison : Comparison) (capacity : Nat)
    (past : List Double) (value : Double) :
    comparison.holds value (recalled capacity past) =
      comparison.holdsOver (max capacity 1) past value := by
  unfold holds holdsOver
  rw [resolve_recalled]
  cases comparison.threshold.over (max capacity 1) past with
  | none => rfl
  | some base => exact comparison.comparator.holds_eq_relates value _

/-- A rule holds by a recalled history as it does by the values so far. -/
theorem Rule.holds_recalled (rule : Rule) (capacity : Nat) (past : List Double) (value : Double) :
    rule.holds value (recalled capacity past) = rule.holdsOver (max capacity 1) past value := by
  unfold holds holdsOver
  simp only [Comparison.holds_recalled]
  exact foldl_join_eq_truthAfter (·.holdsOver (max capacity 1) past value) rule.chain _

/-- The first rule that holds by a recalled history is the first that holds by the values so far. -/
theorem Rule.firstMatch_recalled (rules : List Rule) (capacity : Nat) (past : List Double)
    (value : Double) :
    firstMatch rules value (recalled capacity past) =
      firstOver rules (max capacity 1) past value := by
  simp only [firstMatch, firstOver, holds_recalled]

namespace AlertState

/-- By a recalled history a sample is reported as it is after the values so far. -/
theorem reportOf_of_recalled {state : AlertState} (alert : Alert) {sample : Sample}
    {capacity : Nat} {past : List Double}
    (recalls : state.history? sample.target = recalled capacity past) :
    state.reportOf alert sample = Report.ofSample alert (max capacity 1) past sample := by
  unfold reportOf Report.ofSample
  cases sample.value with
  | none => rfl
  | some value =>
    simp only [recalls, Rule.firstMatch_recalled]
    rfl

/-- A check takes a value after the samples before it: first its report, then the value itself, and
then the samples after it. -/
theorem check_around (state : AlertState) (alert : Alert) (earlier later : List Sample)
    (target : String) (value : Double) :
    state.check alert (earlier ++ ⟨some value, target⟩ :: later) =
      let before := state.check alert earlier
      let judged := before.1.transition alert (before.1.reportOf alert ⟨some value, target⟩)
      let after := (judged.1.record target value).check alert later
      (after.1, before.2 ++ (judged.2.toList ++ after.2)) := by
  rw [check_append]
  rfl

/-- After any run and any samples before it in its batch, a value is judged by the first rule that
holds after the values of its target so far: the check makes the report of that rule, and only
then appends the value. -/
theorem check_of_value (alert : Alert) (historySize : Nat) (calls : List (Alert × Operation))
    (earlier later : List Sample) (target : String) (value : Double) :
    let state := ((initial historySize).run calls).1
    let before := state.check alert earlier
    let past := valuesOf target (stepsOf (calls ++ [(alert, .check earlier)]))
    let rule := Rule.firstOver alert.rules (max historySize 1) past value
    let report : Report :=
      ⟨target, (rule.map (·.level)).getD .normal, .number value, .source, rule⟩
    before.1.reportOf alert ⟨some value, target⟩ = report ∧
      state.check alert (earlier ++ ⟨some value, target⟩ :: later) =
        let judged := before.1.transition alert report
        let after := (judged.1.record target value).check alert later
        (after.1, before.2 ++ (judged.2.toList ++ after.2)) := by
  intro state before past rule report
  have seen : before.1 =
      ((initial historySize).run (calls ++ [(alert, .check earlier)])).1 := by
    rw [run_append]
    rfl
  have judged : before.1.reportOf alert ⟨some value, target⟩ = report := by
    rw [seen]
    exact reportOf_of_recalled alert (history?_run historySize _ target)
  refine ⟨judged, ?_⟩
  rw [check_around, ← judged]

end AlertState

end Vigil
