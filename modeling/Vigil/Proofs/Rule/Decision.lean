import Mathlib.Data.List.Induction
import Vigil.Rule.Evaluation
import Vigil.Rule.Reading

/-!
# Where a rule is decided

The comparisons of a rule are joined from the left, and neither connective binds more tightly than
the other. So a rule holds exactly when there is a true comparison that begins it or comes after OR,
with every later comparison after AND true as well: a later OR takes nothing away, and what stands
before that place no longer counts.
-/

namespace Vigil.Rule

/-- The connective in front of a comparison; the first one has none. -/
def connectiveBefore (rule : Rule) : Nat → Option Connective
  | 0 => none
  | place + 1 => rule.connectives[place]?

/-- A true comparison opens the rule or comes after OR, and all later ones after AND are true. -/
structure DecidedAt (rule : Rule) (value : Double) (history : Option History) (place : Nat) :
    Prop where
  opens : place = 0 ∨ rule.connectiveBefore place = some .either
  passes : ∃ comparison, rule.comparisons[place]? = some comparison ∧
    comparison.holds value history = true
  stays : ∀ later comparison, place < later → rule.connectiveBefore later = some .both →
    rule.comparisons[later]? = some comparison → comparison.holds value history = true

/-- The rule with one link more at its end. -/
def extend (rule : Rule) (link : Connective × Comparison) : Rule :=
  { rule with chain := rule.chain ++ [link] }

variable {rule : Rule} {value : Double} {history : Option History} {place : Nat}

/-- The last comparison is joined to the truth of all that stands before it. -/
theorem holds_extend (rule : Rule) (link : Connective × Comparison) (value : Double)
    (history : Option History) :
    (rule.extend link).holds value history =
      link.1.join (rule.holds value history) (link.2.holds value history) := by
  simp [extend, holds, List.foldl_append]

/-- A longer rule has one comparison more. -/
theorem comparisons_extend (rule : Rule) (link : Connective × Comparison) :
    (rule.extend link).comparisons = rule.comparisons ++ [link.2] := by
  simp [extend, comparisons]

/-- The connectives of the shorter rule stay where they are. -/
theorem connectiveBefore_extend (link : Connective × Comparison)
    (inside : place < rule.comparisons.length) :
    (rule.extend link).connectiveBefore place = rule.connectiveBefore place := by
  cases place with
  | zero => rfl
  | succ place =>
    have shorter : place < rule.connectives.length := by
      rw [length_comparisons] at inside
      omega
    have longer : (rule.extend link).connectives = rule.connectives ++ [link.1] := by
      simp [extend, connectives]
    simp only [connectiveBefore]
    rw [longer, List.getElem?_append_left shorter]

/-- The new connective stands in front of the new comparison. -/
theorem connectiveBefore_extend_last (rule : Rule) (link : Connective × Comparison) :
    (rule.extend link).connectiveBefore rule.comparisons.length = some link.1 := by
  simp [length_comparisons, connectiveBefore, extend, connectives]

/-- A rule is decided at one of its comparisons. -/
theorem lt_of_decidedAt (decided : rule.DecidedAt value history place) :
    place < rule.comparisons.length := by
  obtain ⟨comparison, found, -⟩ := decided.passes
  exact (List.getElem?_eq_some_iff.1 found).1

/-- A longer rule is decided where the shorter one is, unless its last comparison is false and comes
after AND. -/
theorem decidedAt_extend_iff (link : Connective × Comparison)
    (inside : place < rule.comparisons.length) :
    (rule.extend link).DecidedAt value history place ↔
      rule.DecidedAt value history place ∧
        (link.1 = .both → link.2.holds value history = true) := by
  have here : (rule.extend link).comparisons[place]? = rule.comparisons[place]? := by
    rw [comparisons_extend, List.getElem?_append_left inside]
  have last : (rule.extend link).comparisons[rule.comparisons.length]? = some link.2 := by
    rw [comparisons_extend, List.getElem?_concat_length]
  constructor
  · rintro ⟨opens, passes, stays⟩
    rw [connectiveBefore_extend link inside] at opens
    rw [here] at passes
    refine ⟨⟨opens, passes, ?_⟩, fun both => ?_⟩
    · intro later comparison after both found
      have within : later < rule.comparisons.length := (List.getElem?_eq_some_iff.1 found).1
      refine stays later comparison after ?_ ?_
      · rwa [connectiveBefore_extend link within]
      · rwa [comparisons_extend, List.getElem?_append_left within]
    · refine stays rule.comparisons.length link.2 inside ?_ last
      rw [connectiveBefore_extend_last, both]
  · rintro ⟨⟨opens, passes, stays⟩, ends⟩
    refine ⟨?_, ?_, ?_⟩
    · rwa [connectiveBefore_extend link inside]
    · rwa [here]
    · intro later comparison after both found
      rcases Nat.lt_trichotomy later rule.comparisons.length with within | rfl | beyond
      · rw [connectiveBefore_extend link within] at both
        rw [comparisons_extend, List.getElem?_append_left within] at found
        exact stays later comparison after both found
      · rw [connectiveBefore_extend_last] at both
        obtain rfl : link.2 = comparison := Option.some.inj (last.symm.trans found)
        exact ends (Option.some.inj both)
      · have short : (rule.extend link).comparisons.length ≤ later := by
          rw [comparisons_extend, List.length_append, List.length_singleton]
          exact beyond
        rw [List.getElem?_eq_none short] at found
        cases found

/-- A longer rule is decided at its last comparison when that is true and comes after OR. -/
theorem decidedAt_extend_last_iff (rule : Rule) (link : Connective × Comparison) :
    (rule.extend link).DecidedAt value history rule.comparisons.length ↔
      link.1 = .either ∧ link.2.holds value history = true := by
  have last : (rule.extend link).comparisons[rule.comparisons.length]? = some link.2 := by
    rw [comparisons_extend, List.getElem?_concat_length]
  constructor
  · rintro ⟨opens, ⟨comparison, found, truth⟩, -⟩
    obtain rfl : link.2 = comparison := Option.some.inj (last.symm.trans found)
    rw [connectiveBefore_extend_last] at opens
    rcases opens with none | either
    · simp [comparisons] at none
    · exact ⟨Option.some.inj either, truth⟩
  · rintro ⟨either, truth⟩
    refine ⟨.inr ?_, ⟨link.2, last, truth⟩, ?_⟩
    · rw [connectiveBefore_extend_last, either]
    · intro later comparison after both found
      have within := (List.getElem?_eq_some_iff.1 found).1
      rw [comparisons_extend, List.length_append, List.length_singleton] at within
      omega

/-- The decision of a longer rule is that of the shorter one, or falls at its last comparison. -/
theorem exists_decidedAt_extend_iff (rule : Rule) (link : Connective × Comparison) :
    (∃ place, (rule.extend link).DecidedAt value history place) ↔
      (∃ place, rule.DecidedAt value history place) ∧
          (link.1 = .both → link.2.holds value history = true) ∨
        link.1 = .either ∧ link.2.holds value history = true := by
  constructor
  · rintro ⟨place, decided⟩
    have within := lt_of_decidedAt decided
    rw [comparisons_extend, List.length_append, List.length_singleton] at within
    rcases Nat.lt_or_eq_of_le (Nat.le_of_lt_succ within) with inside | rfl
    · obtain ⟨before, ends⟩ := (decidedAt_extend_iff link inside).1 decided
      exact .inl ⟨⟨place, before⟩, ends⟩
    · exact .inr ((decidedAt_extend_last_iff rule link).1 decided)
  · rintro (⟨⟨place, before⟩, ends⟩ | last)
    · exact ⟨place, (decidedAt_extend_iff link (lt_of_decidedAt before)).2 ⟨before, ends⟩⟩
    · exact ⟨_, (decidedAt_extend_last_iff rule link).2 last⟩

/-- A rule without connectives is decided by its one comparison. -/
theorem exists_decidedAt_single_iff (single : rule.chain = []) :
    (∃ place, rule.DecidedAt value history place) ↔ rule.head.holds value history = true := by
  have only : rule.comparisons = [rule.head] := by simp [comparisons, single]
  constructor
  · rintro ⟨place, decided⟩
    have first := lt_of_decidedAt decided
    obtain ⟨comparison, found, truth⟩ := decided.passes
    simp only [only, List.length_singleton, Nat.lt_one_iff] at first found
    subst first
    obtain rfl : rule.head = comparison := Option.some.inj found
    exact truth
  · intro truth
    refine ⟨0, .inl rfl, ⟨rule.head, by simp [only], truth⟩, ?_⟩
    intro later comparison after both found
    simp [only, Nat.ne_of_gt after] at found

/-- When the connectives are put together with all comparisons but the first, none is left over. -/
theorem holds_eq_zip (rule : Rule) (value : Double) (history : Option History) :
    rule.holds value history =
      (rule.connectives.zip (rule.comparisons.tail.map (·.holds value history))).foldl
        (fun truth link => link.1.join truth link.2) (rule.head.holds value history) := by
  simp [holds, connectives, comparisons, List.zip_map', List.foldl_map]

/-- Every comparison and every connective of a rule counts, one connective between each two
comparisons, and none binds more tightly: a rule holds exactly when it is decided at a comparison
that begins it or comes after OR, and one link more is joined to the truth of the whole rule. -/
theorem holds_iff_decided (rule : Rule) (value : Double) (history : Option History) :
    rule.comparisons.length = rule.connectives.length + 1 ∧
      rule.holds value history =
        (rule.connectives.zip (rule.comparisons.tail.map (·.holds value history))).foldl
          (fun truth link => link.1.join truth link.2) (rule.head.holds value history) ∧
      (rule.holds value history = true ↔ ∃ place, rule.DecidedAt value history place) ∧
      ∀ link, (rule.extend link).holds value history =
        link.1.join (rule.holds value history) (link.2.holds value history) := by
  refine ⟨rule.length_comparisons, holds_eq_zip rule value history, ?_,
    fun link => holds_extend rule link value history⟩
  obtain ⟨level, head, chain, raw⟩ := rule
  induction chain using List.reverseRecOn with
  | nil => exact (exists_decidedAt_single_iff rfl).symm
  | append_singleton chain link ih =>
    let shorter : Rule := ⟨level, head, chain, raw⟩
    change (shorter.extend link).holds value history = true ↔
      ∃ place, (shorter.extend link).DecidedAt value history place
    rw [holds_extend, exists_decidedAt_extend_iff, ← ih]
    obtain ⟨connective, comparison⟩ := link
    cases connective <;> simp [Connective.join, shorter]

/-- AND does not bind more tightly than OR: otherwise this rule would hold for a negative value. -/
example : (read "critical: < 0 OR > 5 AND > 100").toOption.map
    (·.holds (.ofInt (-1)) none) = some false := by
  decide +kernel

end Vigil.Rule
