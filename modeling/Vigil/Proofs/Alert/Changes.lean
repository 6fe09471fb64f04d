import Mathlib.Data.List.Chain
import Vigil.Proofs.Alert.Judgement
import Vigil.Proofs.Traversal

/-!
# Notifications are changes of level

Every sample and every transition of a run reports a level of its target, and resets cut
the run into segments. The notifications of a target in a segment are the changes among
its reports there. A segment begins from normal; only where first levels are sent, the
first report that a run makes of a target is sent whatever its level, unless the target
stands for the watch itself.

The levels that a state records, and those that it does not, are summed up in the level
with which the next report of a target is compared. The reports themselves need no state:
they are told from the values of their targets before them.
-/

namespace Vigil

/-- Whether the first report of a target is sent whatever its level. -/
def Alert.sendsFirst (alert : Alert) (target : String) : Bool :=
  alert.sendInitial && target ≠ waitingTarget && target ≠ loadingTarget

namespace Report

/-- The reports that differ in level from the one before each of them. The first is compared with
the given level, and where there is none it counts as different. -/
def changes : Option Level → List Report → List Report
  | _, [] => []
  | before, report :: rest =>
      if before = some report.level then changes (some report.level) rest
      else report :: changes (some report.level) rest

/-- The level of the last report, and the given one where there is no report. -/
def lastLevel (before : Option Level) (reports : List Report) : Option Level :=
  reports.foldl (fun _ report => some report.level) before

/-- The reports of one target that are sent, segment by segment. A segment begins from normal,
except that the first report of all is sent whatever its level when `first` says so. -/
def sent (first : Bool) : List (List Report) → List (List Report)
  | [] => []
  | reports :: rest =>
      changes (if first then none else some .normal) reports :: sent (first && reports.isEmpty) rest

/-- The first change differs from the level before all reports. -/
theorem level_head?_changes (before : Option Level) (reports : List Report) :
    ∀ report ∈ (changes before reports).head?, before ≠ some report.level := by
  induction reports generalizing before with
  | nil => simp [changes]
  | cons report rest ih =>
    unfold changes
    split
    · rename_i same
      rw [same]
      exact ih (some report.level)
    · rename_i differs
      intro head isHead
      obtain rfl : report = head := by simpa using isHead
      exact differs

/-- No two changes in a row have the same level. -/
theorem isChain_changes (before : Option Level) (reports : List Report) :
    (changes before reports).IsChain fun a b => a.level ≠ b.level := by
  induction reports generalizing before with
  | nil => exact List.isChain_nil
  | cons report rest ih =>
    unfold changes
    split
    · exact ih (some report.level)
    · rw [List.isChain_cons]
      refine ⟨fun next isNext same => ?_, ih (some report.level)⟩
      exact level_head?_changes (some report.level) rest next isNext (congrArg some same)

/-- What is sent in a segment never has the same level twice in a row. -/
theorem isChain_sent (first : Bool) (segments : List (List Report)) :
    (sent first segments).Forall fun reports => reports.IsChain fun a b => a.level ≠ b.level := by
  induction segments generalizing first with
  | nil => trivial
  | cons reports rest ih =>
    rw [sent, List.forall_cons]
    exact ⟨isChain_changes _ reports, ih _⟩

/-- After a report there is a level to compare with, whatever follows. -/
theorem isSome_lastLevel (level : Level) (reports : List Report) :
    (lastLevel (some level) reports).isSome := by
  induction reports generalizing level with
  | nil => rfl
  | cons report rest ih => exact ih report.level

/-- After a reset the next report of a target is compared with normal, unless it is the first one
and is sent whatever its level. -/
theorem map_lastLevel (first : Bool) (reports : List Report) :
    ((lastLevel (if first then none else some .normal) reports).map fun _ => Level.normal) =
      if first && reports.isEmpty then none else some .normal := by
  cases reports with
  | nil => cases first <;> rfl
  | cons report rest =>
    obtain ⟨last, found⟩ := Option.isSome_iff_exists.1 (isSome_lastLevel report.level rest)
    have shifted : lastLevel (if first then none else some .normal) (report :: rest) =
        lastLevel (some report.level) rest := rfl
    simp [shifted, found]

end Report

namespace AlertState

open Report

/-- The level with which the next report of a target is compared. A level that is not recorded
counts as normal, unless first levels are sent. -/
def compared (state : AlertState) (alert : Alert) (target : String) : Option Level :=
  (state.level? target).or (if alert.sendInitial then none else some .normal)

/-- The reports that steps make for an alert. -/
def reportsOf (state : AlertState) (alert : Alert) : List Step → List Report
  | [] => []
  | step :: rest =>
      (state.reportAt alert step).toList ++ (state.advance alert step).1.reportsOf alert rest

/-- The report that a step makes after earlier ones, told without a state: of a sample by the values
of its target before it, and of a reset none. -/
def Step.reportAfter (alert : Alert) (room : Nat) (past : List Step) : Step → Option Report
  | .sample taken => some (.ofSample alert room (past.filterMap (value? taken.target)) taken)
  | .report given => some given
  | .reset => none

/-- The reports of steps after earlier ones. -/
def reportsAfter (alert : Alert) (room : Nat) (past : List Step) : List Step → List Report
  | [] => []
  | step :: rest =>
      (step.reportAfter alert room past).toList ++ reportsAfter alert room (past ++ [step]) rest

/-- The reports of the parts of a run, each part after those before it. -/
def reportsByPart (alert : Alert) (room : Nat) (past : List Step) :
    List (List Step) → List (List Report)
  | [] => []
  | part :: rest =>
      reportsAfter alert room past part :: reportsByPart alert room (past ++ part) rest

/-- A part of a run between resets: the reports that it makes and the notifications that it
returns. -/
structure Segment where
  reports : List Report
  events : List Event

/-- The reports of a target in a segment. -/
def Segment.reportsFor (segment : Segment) (target : String) : List Report :=
  segment.reports.filter fun report => report.target = target

/-- The notifications of a target in a segment. -/
def Segment.eventsFor (segment : Segment) (target : String) : List Event :=
  segment.events.filter fun event => event.target = target

/-- The segments of a run, from the steps between its resets. -/
def segments (state : AlertState) (alert : Alert) : List (List Step) → List Segment
  | [] => []
  | part :: rest =>
      let (last, events) := state.follow (part.map fun step => (alert, step))
      ⟨state.reportsOf alert part, events⟩ :: last.reset.segments alert rest

variable {state : AlertState} {alert : Alert}

/-- A report is silent exactly when it has the level with which it is compared. -/
theorem isSilent_iff (state : AlertState) (alert : Alert) (report : Report) :
    state.isSilent alert report = true ↔
      state.compared alert report.target = some report.level := by
  unfold isSilent compared
  cases state.level? report.target with
  | some level => simp
  | none =>
    cases alert.sendInitial with
    | true => simp
    | false => simpa using eq_comm

/-- At first reports are compared with normal, where they are not sent whatever their level. -/
theorem compared_initial (historySize : Nat) (alert : Alert) (target : String) :
    (initial historySize).compared alert target =
      if alert.sendsFirst target then none else some .normal := by
  unfold compared Alert.sendsFirst
  rw [level?_initial]
  by_cases loads : target = loadingTarget <;> by_cases waits : target = waitingTarget <;>
    simp [loads, waits]

/-- A reset makes the next report compared with normal, if it is compared at all. -/
theorem compared_reset (state : AlertState) (alert : Alert) (target : String) :
    state.reset.compared alert target =
      (state.compared alert target).map fun _ => .normal := by
  unfold compared
  rw [level?_reset]
  cases state.level? target with
  | some level => rfl
  | none => cases alert.sendInitial <;> rfl

/-- The next report of a target is compared with its last one, silent or not. -/
theorem compared_transition (state : AlertState) (alert : Alert) (report : Report)
    (target : String) :
    (state.transition alert report).1.compared alert target =
      if report.target = target then some report.level else state.compared alert target := by
  by_cases own : report.target = target
  · subst own
    cases silent : state.isSilent alert report with
    | true =>
      have same := (isSilent_iff state alert report).1 silent
      simpa [compared, level?_transition, silent] using same
    | false => simp [compared, level?_transition, silent]
  · simp [compared, level?_transition, own, Ne.symm own]

/-- A step with a report notifies exactly when the level is not the one compared with. -/
theorem event_advance_of_report {step : Step} {report : Report}
    (made : state.reportAt alert step = some report) :
    (state.advance alert step).2 =
      if state.compared alert report.target = some report.level then none
      else some (report.event alert) := by
  rw [event_advance, made, Option.bind_some, event_transition]
  simp only [isSilent_iff]

/-- After a step with a report the next report of its target is compared with that one. -/
theorem compared_advance_of_report {step : Step} {report : Report}
    (made : state.reportAt alert step = some report) (target : String) :
    (state.advance alert step).1.compared alert target =
      if report.target = target then some report.level else state.compared alert target := by
  rw [← compared_transition]
  unfold compared
  rw [level?_advance_of_report made]

/-- A step that is no reset makes a report. -/
theorem reportAt_of_not_reset (state : AlertState) (alert : Alert) {step : Step}
    (goesOn : step.isReset = false) :
    ∃ report, state.reportAt alert step = some report := by
  cases step with
  | reset => exact absurd goesOn (by decide)
  | _ => exact ⟨_, rfl⟩

/-- Between resets the notifications of a target are the changes among its reports. A report of
another target may be notified too, but it is left out on both sides. -/
theorem events_follow (state : AlertState) (alert : Alert) {part : List Step}
    (goesOn : ∀ step ∈ part, step.isReset = false) (target : String) :
    ((state.follow (part.map fun step => (alert, step))).2.filter
        fun event => event.target = target) =
      (changes (state.compared alert target)
        ((state.reportsOf alert part).filter fun report => report.target = target)).map
          (·.event alert) := by
  induction part generalizing state with
  | nil => rfl
  | cons step rest ih =>
    obtain ⟨here, later⟩ := List.forall_mem_cons.1 goesOn
    obtain ⟨report, made⟩ := reportAt_of_not_reset state alert here
    have after := ih (state.advance alert step).1 later
    rw [compared_advance_of_report made] at after
    simp only [List.map_cons, follow, reportsOf, made, event_advance_of_report made,
      List.filter_append, after]
    by_cases own : report.target = target
    · by_cases same : state.compared alert target = some report.level
      · simp [own, same, changes]
      · simp [own, same, changes, Report.event]
    · by_cases same : state.compared alert report.target = some report.level
      · simp [own, same]
      · simp [own, same, Report.event]

/-- Between resets the level compared with is that of the last report. -/
theorem compared_follow (state : AlertState) {alert : Alert} {part : List Step}
    (goesOn : ∀ step ∈ part, step.isReset = false) (target : String) :
    (state.follow (part.map fun step => (alert, step))).1.compared alert target =
      lastLevel (state.compared alert target)
        ((state.reportsOf alert part).filter fun report => report.target = target) := by
  induction part generalizing state with
  | nil => rfl
  | cons step rest ih =>
    obtain ⟨here, later⟩ := List.forall_mem_cons.1 goesOn
    obtain ⟨report, made⟩ := reportAt_of_not_reset state alert here
    have after := ih (state.advance alert step).1 later
    rw [compared_advance_of_report made] at after
    simp only [List.map_cons, follow, reportsOf, made, List.filter_append, after]
    by_cases own : report.target = target <;> simp [own, lastLevel]

/-- A step is reported by the history of its state as it is after the steps before it. -/
theorem reportAt_eq_reportAfter {past : List Step} (recalls : state.Recalls past) (step : Step) :
    state.reportAt alert step = step.reportAfter alert (max state.historySize 1) past := by
  cases step with
  | sample sample => exact congrArg some (reportOf_of_recalled alert (recalls sample.target))
  | report report => rfl
  | reset => rfl

/-- The reports of steps are those that are told from the steps before them. -/
theorem reportsOf_eq_reportsAfter {past : List Step} (recalls : state.Recalls past)
    (steps : List Step) :
    state.reportsOf alert steps =
      reportsAfter alert (max state.historySize 1) past steps := by
  induction steps generalizing state past with
  | nil => rfl
  | cons step rest ih =>
    have after := ih (recalls.advance alert step)
    rw [historySize_advance] at after
    rw [reportsOf, reportsAfter, reportAt_eq_reportAfter recalls, after]

/-- Segment by segment, the reports of a run are told from the steps before them. -/
theorem reports_segments {past : List Step} (recalls : state.Recalls past)
    (parts : List (List Step)) :
    (state.segments alert parts).map Segment.reports =
      reportsByPart alert (max state.historySize 1) past parts := by
  induction parts generalizing state past with
  | nil => rfl
  | cons part rest ih =>
    have after := ih (recalls.follow alert part).reset
    rw [historySize_reset, historySize_follow] at after
    simp only [segments, List.map_cons, reportsByPart, after, reportsOf_eq_reportsAfter recalls]

/-- The segments of a run return its notifications in order. -/
theorem events_segments (state : AlertState) (alert : Alert) (steps : List Step) :
    (state.follow (steps.map fun step => (alert, step))).2 =
      (state.segments alert (steps.splitOnP Step.isReset)).flatMap Segment.events := by
  induction steps generalizing state with
  | nil => rfl
  | cons step rest ih =>
    rw [List.splitOnP_cons_eq_if_modifyHead]
    have after := ih (state.advance alert step).1
    cases step with
    | reset => simpa [follow, advance, Step.isReset, segments] using after
    | _ =>
      obtain ⟨part, parts, split⟩ :=
        List.exists_cons_of_ne_nil (List.splitOnP_ne_nil Step.isReset rest)
      rw [split] at after ⊢
      simp [follow, Step.isReset, segments, after, List.append_assoc]

/-- Segment by segment, the notifications of a target are what is sent of its reports. Of the state
at the beginning of a segment only the level that it compares with is known. -/
theorem eventsFor_segments {first : Bool} {target : String} {parts : List (List Step)}
    (goesOn : ∀ part ∈ parts, ∀ step ∈ part, step.isReset = false)
    (starts : state.compared alert target = if first then none else some .normal) :
    (state.segments alert parts).map (·.eventsFor target) =
      (sent first ((state.segments alert parts).map (·.reportsFor target))).map
        fun reports => reports.map (·.event alert) := by
  induction parts generalizing state first with
  | nil => rfl
  | cons part rest ih =>
    obtain ⟨here, later⟩ := List.forall_mem_cons.1 goesOn
    have events := events_follow state alert here target
    have after : (state.follow (part.map fun step => (alert, step))).1.reset.compared alert target =
        if first && ((state.reportsOf alert part).filter fun report =>
          report.target = target).isEmpty then none else some .normal := by
      rw [compared_reset, compared_follow state here, starts, map_lastLevel]
    rw [starts] at events
    simp only [segments, List.map_cons, sent, Segment.eventsFor, Segment.reportsFor] at ih ⊢
    rw [events, ih later after]

/-- Calls for one alert take their steps for it. -/
theorem stepsOf_map (alert : Alert) (operations : List Operation) :
    stepsOf (operations.map fun operation => (alert, operation)) =
      (operations.flatMap Operation.steps).map fun step => (alert, step) := by
  simp only [stepsOf, List.flatMap_map, List.map_flatMap]

/-- Whatever is called for an alert, the notifications are those of the segments between the
resets, and in each segment a target is notified of exactly the changes among its reports there.
No notification has the level of the one before it in its segment. The reports of a sample are of
missing data or of the first rule that holds after the values of its target before it. -/
theorem events_of_run (alert : Alert) (historySize : Nat) (operations : List Operation)
    (target : String) :
    let start := initial historySize
    let parts := (operations.flatMap Operation.steps).splitOnP Step.isReset
    let segments := start.segments alert parts
    (start.run (operations.map fun operation => (alert, operation))).2 =
        segments.flatMap Segment.events ∧
      segments.map (·.eventsFor target) =
        (sent (alert.sendsFirst target) (segments.map (·.reportsFor target))).map
          (fun reports => reports.map (·.event alert)) ∧
      ((segments.map (·.eventsFor target)).Forall
        fun events => events.IsChain fun a b => a.level ≠ b.level) ∧
      segments.map Segment.reports = reportsByPart alert (max historySize 1) [] parts := by
  intro start parts segments
  have changed : segments.map (·.eventsFor target) =
      (sent (alert.sendsFirst target) (segments.map (·.reportsFor target))).map
        (fun reports => reports.map (·.event alert)) :=
    eventsFor_segments (not_of_mem_splitOnP Step.isReset _)
      (compared_initial historySize alert target)
  refine ⟨?_, changed, ?_, reports_segments (recalls_initial historySize) parts⟩
  · rw [run_eq_follow, stepsOf_map, events_segments]
  · rw [changed, List.forall_map_iff]
    refine (isChain_sent _ _).imp fun reports chain => ?_
    exact (List.isChain_map _).2 chain

end AlertState

end Vigil
