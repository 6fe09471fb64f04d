import Vigil.Alert.State
import Vigil.Proofs.Alert.Compilation

/-!
# The most severe rule decides

An alert keeps all rules of its configuration, from the most severe level on, and rules of one
level in the order in which they were configured. So the rule that decides on a value is the
earliest one that was configured among the true rules of the most severe level, and the level of
the decision is the most severe one of all true rules. In which order rules of different levels
were configured makes no difference to it.
-/

namespace Vigil

namespace Level

/-- The most severe of some levels; where there are none it is normal. -/
def severest (levels : List Level) : Level := (all.find? levels.contains).getD .normal

/-- A level that none of some levels exceeds is the most severe of them. -/
theorem severest_eq {levels : List Level} {level : Level} (listed : level ∈ levels)
    (least : ∀ other ∈ levels, level.rank ≤ other.rank) : severest levels = level := by
  have exceeded : ∀ other : Level, other.rank < level.rank → other ∉ levels := by
    intro other above member
    have below := least other member
    omega
  have found : all.find? levels.contains = some level := by
    cases level with
    | critical => simp [all, listed]
    | warning => simp [all, listed, exceeded .critical (by decide)]
    | normal =>
      simp [all, listed, exceeded .critical (by decide), exceeded .warning (by decide)]
    | noData =>
      simp [all, listed, exceeded .critical (by decide), exceeded .warning (by decide),
        exceeded .normal (by decide)]
  rw [severest, found, Option.getD_some]

/-- Only which levels there are counts, and neither their order nor how often they are there. -/
theorem severest_congr {some others : List Level} (same : ∀ level, level ∈ some ↔ level ∈ others) :
    severest some = severest others := by
  have contains : some.contains = others.contains := by
    funext level
    rw [Bool.eq_iff_iff, List.contains_iff_mem, List.contains_iff_mem, same level]
  rw [severest, severest, contains]

end Level

namespace Rule

/-- The levels of the rules that hold for a value. -/
def trueLevels (rules : List Rule) (value : Double) (history : Option History) : List Level :=
  (rules.filter fun rule => rule.holds value history).map (·.level)

/-- A rule leads the true ones: it holds, no rule that holds is more severe, and none of its level
that holds comes before it. -/
structure Leads (rules : List Rule) (value : Double) (history : Option History) (rule : Rule) :
    Prop where
  truth : rule.holds value history = true
  severest : ∀ other ∈ rules, other.holds value history = true →
    rule.level.rank ≤ other.level.rank
  earliest : ∃ before after, rules = before ++ rule :: after ∧
    ∀ other ∈ before, other.holds value history = true → other.level ≠ rule.level

variable {rules : List Rule} {rule : Rule} {value : Double} {history : Option History}

/-! ## The order by severity -/

/-- Sorting loses no rule and adds none. -/
theorem sortBySeverity_perm (rules : List Rule) : (sortBySeverity rules).Perm rules :=
  List.mergeSort_perm rules _

/-- The order by severity is transitive. -/
theorem severity_trans (a b c : Rule) (first : decide (a.level.rank ≤ b.level.rank) = true)
    (second : decide (b.level.rank ≤ c.level.rank) = true) :
    decide (a.level.rank ≤ c.level.rank) = true := by
  simp only [decide_eq_true_eq] at first second ⊢
  omega

/-- Of two rules one is at least as severe as the other. -/
theorem severity_total (a b : Rule) :
    (decide (a.level.rank ≤ b.level.rank) || decide (b.level.rank ≤ a.level.rank)) = true := by
  simp only [Bool.or_eq_true, decide_eq_true_eq]
  omega

/-- After sorting no rule is more severe than one in front of it. -/
theorem pairwise_sortBySeverity (rules : List Rule) :
    (sortBySeverity rules).Pairwise fun a b => a.level.rank ≤ b.level.rank := by
  have sorted := List.pairwise_mergeSort severity_trans severity_total rules
  exact sorted.imp fun ordered => of_decide_eq_true ordered

/-- Sorting is stable: the rules of one level keep their order. -/
theorem filter_sortBySeverity (rules : List Rule) (level : Level) :
    (sortBySeverity rules).filter (·.level = level) = rules.filter (·.level = level) := by
  have flat : (rules.filter (·.level = level)).Pairwise
      fun a b => decide (a.level.rank ≤ b.level.rank) = true := by
    rw [List.pairwise_iff_forall_sublist]
    intro a b pair
    have left := (List.mem_filter.1 (pair.subset (by simp : a ∈ [a, b]))).2
    have right := (List.mem_filter.1 (pair.subset (by simp : b ∈ [a, b]))).2
    simp only [decide_eq_true_eq] at left right
    rw [left, right, decide_eq_true (Nat.le_refl _)]
  have kept : (rules.filter (·.level = level)).Sublist (sortBySeverity rules) :=
    List.sublist_mergeSort severity_trans severity_total flat List.filter_sublist
  have inside : (rules.filter (·.level = level)).Sublist
      ((sortBySeverity rules).filter (·.level = level)) := by
    have filtered := kept.filter (·.level = level)
    rwa [List.filter_filter, List.filter_congr fun _ _ => Bool.and_self _] at filtered
  have size : ((sortBySeverity rules).filter (·.level = level)).length =
      (rules.filter (·.level = level)).length :=
    ((sortBySeverity_perm rules).filter _).length_eq
  exact (inside.eq_of_length size.symm).symm

/-! ## The first rule that holds -/

/-- A first rule that holds is found exactly when there is one that holds. -/
theorem exists_firstMatch_iff (rules : List Rule) (value : Double) (history : Option History) :
    (∃ rule, firstMatch (sortBySeverity rules) value history = some rule) ↔
      ∃ rule ∈ rules, rule.holds value history = true := by
  rw [← Option.isSome_iff_exists, firstMatch, List.find?_isSome]
  constructor
  · rintro ⟨rule, member, truth⟩
    exact ⟨rule, (sortBySeverity_perm rules).mem_iff.1 member, truth⟩
  · rintro ⟨rule, member, truth⟩
    exact ⟨rule, (sortBySeverity_perm rules).mem_iff.2 member, truth⟩

/-- The rule that a search finds among those of its level is the earliest of them that holds. -/
theorem find?_filter_eq_some_iff :
    (rules.filter (·.level = rule.level)).find? (·.holds value history) = some rule ↔
      rule.holds value history = true ∧ ∃ before after, rules = before ++ rule :: after ∧
        ∀ other ∈ before, other.holds value history = true → other.level ≠ rule.level := by
  rw [List.find?_filter, List.find?_eq_some_iff_append]
  constructor
  · rintro ⟨truth, before, after, split, passed⟩
    refine ⟨by simpa using truth, before, after, split, fun other member holds level => ?_⟩
    have excluded := passed other member
    simp [holds, level] at excluded
  · rintro ⟨truth, before, after, split, earliest⟩
    refine ⟨by simp [truth], before, after, split, fun other member => ?_⟩
    by_cases holds : other.holds value history = true
    · simpa [holds] using earliest other member holds
    · simp [holds]

/-- The first rule that holds after sorting leads the true ones. Sorting changes nothing among the
rules of its level, and there it is the first to hold. -/
theorem leads_of_firstMatch (found : firstMatch (sortBySeverity rules) value history = some rule) :
    Leads rules value history rule := by
  obtain ⟨truth, before, after, sorted, silent⟩ := List.find?_eq_some_iff_append.1 found
  have ordered := pairwise_sortBySeverity rules
  rw [sorted, List.pairwise_append, List.pairwise_cons] at ordered
  obtain ⟨-, ⟨least, -⟩, -⟩ := ordered
  refine ⟨truth, fun other member holds => ?_, ?_⟩
  · have listed := (sortBySeverity_perm rules).mem_iff.2 member
    rw [sorted, List.mem_append, List.mem_cons] at listed
    rcases listed with early | rfl | late
    · have untrue := silent other early
      simp [holds] at untrue
    · exact Nat.le_refl _
    · exact least other late
  · have first : ((sortBySeverity rules).filter (·.level = rule.level)).find?
        (·.holds value history) = some rule := by
      refine find?_filter_eq_some_iff.2 ⟨truth, before, after, sorted, fun other member holds => ?_⟩
      have untrue := silent other member
      simp [holds] at untrue
    rw [filter_sortBySeverity] at first
    exact (find?_filter_eq_some_iff.1 first).2

/-- At most one rule leads the true ones. -/
theorem leads_unique {other : Rule} (one : Leads rules value history rule)
    (two : Leads rules value history other) : rule = other := by
  obtain ⟨before, after, split, -⟩ := one.earliest
  obtain ⟨front, back, cut, -⟩ := two.earliest
  have level : rule.level = other.level := by
    have upper := one.severest other (by simp [cut]) two.truth
    have lower := two.severest rule (by simp [split]) one.truth
    exact Level.rank_injective (Nat.le_antisymm upper lower)
  have here := find?_filter_eq_some_iff.2 ⟨one.truth, one.earliest⟩
  have there := find?_filter_eq_some_iff.2 ⟨two.truth, two.earliest⟩
  rw [level] at here
  exact Option.some.inj (here.symm.trans there)

/-- The first rule that holds after sorting is the one that leads the true ones. -/
theorem firstMatch_eq_some_iff_leads :
    firstMatch (sortBySeverity rules) value history = some rule ↔
      Leads rules value history rule := by
  refine ⟨leads_of_firstMatch, fun leads => ?_⟩
  obtain ⟨before, after, split, -⟩ := leads.earliest
  obtain ⟨other, found⟩ := (exists_firstMatch_iff rules value history).2
    ⟨rule, by simp [split], leads.truth⟩
  rw [found, leads_unique (leads_of_firstMatch found) leads]

/-- The level of a decision by sorted rules is the most severe one of those that hold. -/
theorem levelOf_firstMatch (rules : List Rule) (value : Double) (history : Option History) :
    levelOf (firstMatch (sortBySeverity rules) value history) =
      Level.severest (trueLevels rules value history) := by
  cases found : firstMatch (sortBySeverity rules) value history with
  | none =>
    have silent : trueLevels rules value history = [] := by
      rw [trueLevels, List.map_eq_nil_iff, List.filter_eq_nil_iff]
      intro rule member truth
      obtain ⟨leader, some⟩ := (exists_firstMatch_iff rules value history).2 ⟨rule, member, truth⟩
      rw [found] at some
      cases some
    rw [silent]
    rfl
  | some rule =>
    have leads := leads_of_firstMatch found
    obtain ⟨before, after, split, -⟩ := leads.earliest
    have listed : rule.level ∈ trueLevels rules value history :=
      List.mem_map_of_mem (List.mem_filter.2 ⟨by simp [split], leads.truth⟩)
    refine (Level.severest_eq listed fun level member => ?_).symm
    obtain ⟨other, kept, rfl⟩ := List.mem_map.1 member
    obtain ⟨present, truth⟩ := List.mem_filter.1 kept
    exact leads.severest other present truth

end Rule

namespace Alert

variable {now : Int} {config : AlertConfig} {options : Options} {alert : Alert}

/-- Rules are read one by one, and then they are sorted. -/
theorem readRules_eq_ok_iff {raws : List String} {rules : List Rule} :
    readRules raws = .ok rules ↔
      ∃ configured, raws.mapM Rule.read = .ok configured ∧
        rules = Rule.sortBySeverity configured := by
  unfold readRules
  cases raws.mapM Rule.read with
  | error fault =>
    change Except.error _ = Except.ok rules ↔ _
    simp
  | ok configured =>
    change Except.ok (Rule.sortBySeverity configured) = Except.ok rules ↔ _
    simp [eq_comm]

/-- An alert that was compiled has the rules of its configuration, of which there is at least one.
With other rules that can be read, the alert is the same but for its rules. -/
theorem rules_of_compile (compiled : compile now config options = .ok alert) :
    config.rules ≠ [] ∧ readRules config.rules = .ok alert.rules ∧
      ∀ raws rules, raws ≠ [] → readRules raws = .ok rules →
        compile now { config with rules := raws } options = .ok { alert with rules := rules } := by
  obtain ⟨named, settings⟩ := compile_eq_ok_iff.1 compiled
  refine ⟨settings.rulesGiven, settings.rules, fun raws rules given read => ?_⟩
  exact compile_eq_ok_iff.2 ⟨named, { settings with rulesGiven := given, rules := read }⟩

/-- What configured rules are to an alert: it has all of them, from the most severe level on, and
those of one level in their order; on each value, with whatever history, decides the one that leads
the true ones, if any is true; and a sample with a value gets the most severe level of the true
ones. -/
structure JudgesBy (alert : Alert) (configured : List Rule) : Prop where
  complete : alert.rules.Perm configured
  ordered : alert.rules.Pairwise fun a b => a.level.rank ≤ b.level.rank
  stable : ∀ level,
    alert.rules.filter (·.level = level) = configured.filter (·.level = level)
  decided : ∀ value history,
    (∃ rule, Rule.firstMatch alert.rules value history = some rule) ↔
      ∃ rule ∈ configured, rule.holds value history = true
  decider : ∀ value history rule,
    Rule.firstMatch alert.rules value history = some rule ↔
      Rule.Leads configured value history rule
  level : ∀ (state : AlertState) value target,
    (state.reportOf alert ⟨some value, target⟩).level =
      Level.severest (Rule.trueLevels configured value (state.history? target))

/-- An alert whose rules were sorted judges by them. -/
theorem judgesBy_of_sorted {configured : List Rule}
    (sorted : alert.rules = Rule.sortBySeverity configured) : alert.JudgesBy configured where
  complete := by
    rw [sorted]
    exact Rule.sortBySeverity_perm configured
  ordered := by
    rw [sorted]
    exact Rule.pairwise_sortBySeverity configured
  stable level := by
    rw [sorted]
    exact Rule.filter_sortBySeverity configured level
  decided value history := by
    rw [sorted]
    exact Rule.exists_firstMatch_iff configured value history
  decider value history rule := by
    rw [sorted]
    exact Rule.firstMatch_eq_some_iff_leads
  level state value target := by
    rw [← Rule.levelOf_firstMatch, ← sorted]
    rfl

/-- Alerts that differ in the order of their configured rules alone give every sample one level. -/
theorem level_reportOf_congr {configured reordered : List Rule} {other : Alert}
    (judges : alert.JudgesBy configured) (rejudges : other.JudgesBy reordered)
    (order : reordered.Perm configured) (missing : other.noData = alert.noData)
    (state : AlertState) (sample : Sample) :
    (state.reportOf other sample).level = (state.reportOf alert sample).level := by
  obtain ⟨value, target⟩ := sample
  cases value with
  | none => exact missing
  | some value =>
    rw [judges.level, rejudges.level]
    refine Level.severest_congr fun level => ?_
    exact ((order.filter _).map _).mem_iff

/-- An alert that was compiled judges by the rules of its configuration. In any other order of these
rules the configuration is compiled as well, and no sample gets another level. -/
theorem judgesBy_of_compile (compiled : compile now config options = .ok alert) :
    ∃ configured, config.rules.map Rule.read = configured.map .ok ∧ alert.JudgesBy configured ∧
      ∀ raws : List String, raws.Perm config.rules →
        ∃ other, compile now { config with rules := raws } options = .ok other ∧
          ∀ (state : AlertState) sample,
            (state.reportOf other sample).level = (state.reportOf alert sample).level := by
  obtain ⟨nonempty, read, others⟩ := rules_of_compile compiled
  obtain ⟨configured, each, sorted⟩ := readRules_eq_ok_iff.1 read
  refine ⟨configured, (mapM_eq_ok_iff Rule.read _ _).1 each, judgesBy_of_sorted sorted, ?_⟩
  intro raws order
  obtain ⟨reordered, readable, same⟩ := exists_perm_of_mapM order each
  have some : raws ≠ [] := by
    rintro rfl
    exact nonempty order.nil_eq.symm
  have recompiled := others raws (Rule.sortBySeverity reordered) some
    (readRules_eq_ok_iff.2 ⟨reordered, readable, rfl⟩)
  exact ⟨_, recompiled,
    level_reportOf_congr (judgesBy_of_sorted sorted) (judgesBy_of_sorted rfl) same rfl⟩

/-- An alert with rules of all levels that overlap and are not in the order of severity. -/
def overlapping : AlertConfig :=
  .make "cpu" "*.cpu" ["normal: < 500", "warning: > 50", "critical: > historical", "warning: < 0"]

/-- An alert with overlapping rules judges by them, and it does so as well when they come in the
opposite order. -/
theorem judgesBy_of_overlapping :
    ∃ alert opposite, compile 0 overlapping .default = .ok alert ∧
      compile 0 { overlapping with rules := overlapping.rules.reverse } .default = .ok opposite ∧
      (∃ configured, alert.JudgesBy configured ∧ configured.length = 4) ∧
      ∀ (state : AlertState) sample,
        (state.reportOf opposite sample).level = (state.reportOf alert sample).level := by
  have accepted : (compile 0 overlapping .default).isOk = true := by decide +kernel
  cases compiled : compile 0 overlapping .default with
  | error fault =>
    rw [compiled] at accepted
    cases accepted
  | ok alert =>
    obtain ⟨configured, each, judges, reorders⟩ := judgesBy_of_compile compiled
    obtain ⟨opposite, recompiled, same⟩ := reorders _ (List.reverse_perm overlapping.rules)
    have count : configured.length = 4 := by
      have lengths := congrArg List.length each
      rwa [List.length_map, List.length_map, eq_comm] at lengths
    exact ⟨alert, opposite, rfl, recompiled, ⟨configured, judges, count⟩, same⟩

end Alert

end Vigil
