import Vigil.Proofs.Monitor.Run

/-!
# One target at a time

All targets of an alert share its state, but none of them sees the others. What a run
notifies of a target, and the level and the history that it leaves of the target, are those
of the steps alone that concern it: its samples, its reports and the resets. The run of
these steps and the whole run go side by side, with states that agree on the target and may
differ in everything else.
-/

namespace Vigil

/-- The notifications of a target. -/
def eventsOf (target : String) (events : List Event) : List Event :=
  events.filter fun event => event.target = target

/-- The notifications of a target in two parts are those in each. -/
@[simp] theorem eventsOf_append (target : String) (first second : List Event) :
    eventsOf target (first ++ second) = eventsOf target first ++ eventsOf target second :=
  List.filter_append ..

namespace AlertState

/-- Whether a step concerns a target: it takes a sample of it, reports it, or is a reset. -/
def Step.concerns (target : String) : Step → Bool
  | .sample taken => taken.target = target
  | .report made => made.target = target
  | .reset => true

/-- The steps that concern a target, in their order. -/
def projection (target : String) (steps : List (Alert × Step)) : List (Alert × Step) :=
  steps.filter fun step => step.2.concerns target

/-- Two states know the same of a target, and a history that it begins has the same room. -/
structure AgreeOn (target : String) (a b : AlertState) : Prop where
  level? : a.level? target = b.level? target
  history? : a.history? target = b.history? target
  historySize : a.historySize = b.historySize

variable {a b : AlertState} {target : String} {step : Step}

/-- A step with a report concerns the target of that report and no other. -/
theorem concerns_of_report {alert : Alert} {report : Report}
    (made : a.reportAt alert step = some report) :
    step.concerns target = decide (report.target = target) := by
  cases step with
  | sample sample =>
    obtain rfl := Option.some.inj made
    simp [Step.concerns]
  | report own =>
    obtain rfl := Option.some.inj made
    rfl
  | reset => exact absurd made (by simp [reportAt])

/-- A step reports a target by what is known of it. -/
theorem reportAt_congr (alert : Alert) (agree : AgreeOn target a b)
    (own : step.concerns target = true) :
    a.reportAt alert step = b.reportAt alert step := by
  cases step with
  | sample sample =>
    obtain rfl : sample.target = target := by simpa [Step.concerns] using own
    simp only [reportAt, reportOf, agree.history?]
  | _ => rfl

/-- A step that concerns a target keeps what two states know in common of it, and is notified
alike. -/
theorem advance_of_concerns (alert : Alert) (agree : AgreeOn target a b)
    (own : step.concerns target = true) :
    AgreeOn target (a.advance alert step).1 (b.advance alert step).1 ∧
      (a.advance alert step).2 = (b.advance alert step).2 := by
  have rooms : (a.advance alert step).1.historySize = (b.advance alert step).1.historySize := by
    simpa only [historySize_advance] using agree.historySize
  have histories :
      (a.advance alert step).1.history? target = (b.advance alert step).1.history? target := by
    rw [history?_advance, history?_advance, agree.history?, agree.historySize]
  cases made : a.reportAt alert step with
  | none =>
    cases step with
    | reset =>
      have levels : a.reset.level? target = b.reset.level? target := by
        rw [level?_reset, level?_reset, agree.level?]
      exact ⟨⟨levels, histories, rooms⟩, rfl⟩
    | _ => exact absurd made (by simp [reportAt])
  | some report =>
    have same : b.reportAt alert step = some report := by
      rw [← reportAt_congr alert agree own, made]
    obtain rfl : report.target = target := by simpa [concerns_of_report made] using own
    have silent := isSilent_congr alert agree.level?
    refine ⟨⟨?_, histories, rooms⟩, ?_⟩
    · rw [level?_advance_of_report made, level?_advance_of_report same, level?_transition,
        level?_transition, silent, agree.level?]
    · rw [event_advance, event_advance, made, same, Option.bind_some, Option.bind_some,
        event_transition, event_transition, silent]

/-- What a step that concerns a target notifies is of that target. -/
theorem eventsOf_advance_of_concerns (alert : Alert) (own : step.concerns target = true) :
    eventsOf target (a.advance alert step).2.toList = (a.advance alert step).2.toList := by
  rw [event_advance]
  cases made : a.reportAt alert step with
  | none => rfl
  | some report =>
    obtain rfl : report.target = target := by simpa [concerns_of_report made] using own
    rw [Option.bind_some, event_transition]
    split <;> simp [eventsOf, Report.event]

/-- A step that does not concern a target leaves alone what is known of it, and notifies nothing of
it. -/
theorem advance_of_not_concerns (alert : Alert) (foreign : step.concerns target = false) :
    AgreeOn target (a.advance alert step).1 a ∧
      eventsOf target (a.advance alert step).2.toList = [] := by
  cases made : a.reportAt alert step with
  | none =>
    cases step with
    | reset => exact absurd foreign (by simp [Step.concerns])
    | _ => exact absurd made (by simp [reportAt])
  | some report =>
    have other : report.target ≠ target := by simpa [concerns_of_report made] using foreign
    have unvalued : step.value? target = none := by
      cases step with
      | sample sample =>
        have named : sample.target ≠ target := by simpa [Step.concerns] using foreign
        simp [Step.value?, named]
      | _ => rfl
    refine ⟨⟨?_, ?_, historySize_advance a alert step⟩, ?_⟩
    · simp [level?_advance_of_report made, level?_transition, Ne.symm other]
    · rw [history?_advance, unvalued]
    · rw [event_advance, made, Option.bind_some, event_transition]
      split <;> simp [eventsOf, Report.event, other]

/-- A whole run and the run of the steps that concern a target end in states that agree on it, and
the notifications of the target in the whole run are all notifications of the other. A step of
another target is taken by the whole run alone, and keeps the agreement. -/
theorem follow_projection (agree : AgreeOn target a b) (steps : List (Alert × Step)) :
    AgreeOn target (a.follow steps).1 (b.follow (projection target steps)).1 ∧
      eventsOf target (a.follow steps).2 = (b.follow (projection target steps)).2 := by
  induction steps generalizing a b with
  | nil => exact ⟨agree, rfl⟩
  | cons next rest ih =>
    obtain ⟨alert, step⟩ := next
    cases own : step.concerns target with
    | true =>
      obtain ⟨after, alike⟩ := advance_of_concerns alert agree own
      obtain ⟨last, later⟩ := ih after
      have kept : projection target ((alert, step) :: rest) =
          (alert, step) :: projection target rest := by simp [projection, own]
      rw [kept]
      refine ⟨last, ?_⟩
      simp only [follow, eventsOf_append, eventsOf_advance_of_concerns alert own, alike, later]
    | false =>
      have still : AgreeOn target (a.advance alert step).1 a :=
        (advance_of_not_concerns alert own).1
      have silent : eventsOf target (a.advance alert step).2.toList = [] :=
        (advance_of_not_concerns alert own).2
      have after : AgreeOn target (a.advance alert step).1 b :=
        ⟨still.level?.trans agree.level?, still.history?.trans agree.history?,
          still.historySize.trans agree.historySize⟩
      obtain ⟨last, later⟩ := ih after
      have dropped : projection target ((alert, step) :: rest) = projection target rest := by
        simp [projection, own]
      rw [dropped]
      refine ⟨last, ?_⟩
      simp only [follow, eventsOf_append, silent, later, List.nil_append]

/-- A run notifies of a target what the steps that concern it notify, and knows the same of it
afterwards. -/
theorem run_projection (historySize : Nat) (calls : List (Alert × Operation)) (target : String) :
    let whole := (initial historySize).run calls
    let part := (initial historySize).follow (projection target (stepsOf calls))
    AgreeOn target whole.1 part.1 ∧ eventsOf target whole.2 = part.2 := by
  rw [run_eq_follow]
  exact follow_projection ⟨rfl, rfl, rfl⟩ (stepsOf calls)

/-- Two runs in which the same samples of a target, reports of it and resets follow each other, in
whatever batches and with whatever calls on other targets in between, notify the same of the target
and leave it the same level and the same history. -/
theorem run_of_same_projection (historySize : Nat) {first second : List (Alert × Operation)}
    {target : String}
    (same : projection target (stepsOf first) = projection target (stepsOf second)) :
    let one := (initial historySize).run first
    let two := (initial historySize).run second
    eventsOf target one.2 = eventsOf target two.2 ∧
      one.1.level? target = two.1.level? target ∧
      one.1.history? target = two.1.history? target := by
  intro one two
  obtain ⟨agree, events⟩ := run_projection historySize first target
  obtain ⟨otherAgree, otherEvents⟩ := run_projection historySize second target
  rw [← same] at otherAgree otherEvents
  exact ⟨events.trans otherEvents.symm, agree.level?.trans otherAgree.level?.symm,
    agree.history?.trans otherAgree.history?.symm⟩

open Monitor in
/-- A target that is critical twice with a reset in between, once alone and once among others. -/
theorem projection_of_two_batchings :
    let alone : List (Alert × Operation) :=
      [(cpuAlert, .check [⟨some 120, "a"⟩]), (cpuAlert, .reset),
        (cpuAlert, .check [⟨some 130, "a"⟩, ⟨none, "a"⟩])]
    let among : List (Alert × Operation) :=
      [(cpuAlert, .check [⟨some 200, "b"⟩, ⟨some 120, "a"⟩]), (cpuAlert, .transition overlapReport),
        (cpuAlert, .reset), (cpuAlert, .check [⟨none, "c"⟩, ⟨some 130, "a"⟩]),
        (cpuAlert, .check [⟨none, "a"⟩])]
    let one := (initial 1).run alone
    let two := (initial 1).run among
    projection "a" (stepsOf alone) = projection "a" (stepsOf among) ∧
      eventsOf "a" one.2 = eventsOf "a" two.2 ∧
      one.1.level? "a" = two.1.level? "a" ∧
      one.1.history? "a" = two.1.history? "a" := by
  intro alone among one two
  have same : projection "a" (stepsOf alone) = projection "a" (stepsOf among) := by
    simp [alone, among, projection, stepsOf, Operation.steps, Step.concerns, overlapReport,
      commonReport, waitingTarget]
  exact ⟨same, run_of_same_projection 1 same⟩

end AlertState

end Vigil
