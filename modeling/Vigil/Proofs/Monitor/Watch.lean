import Mathlib.Logic.Function.Basic
import Vigil.Proofs.Monitor.Run

/-!
# Notifications of the watch itself

The levels of the two targets that stand for the watch share one table with the levels of the
series. As long as no series has the name of such a target, checks neither read nor change these
levels and notify nothing of them. The common notifications of a run are then those of the run
without its checks: they depend on the loads that met another one, on how the others ended and
on the resets, and not on the samples.

The levels, and the targets and levels of the notifications, depend on still less: they are told
from whether each load met another one, brought samples or failed, whatever the failures say.

A series that is named after a target of the watch breaks this.
-/

namespace Vigil

/-- Whether a target stands for the watch itself. -/
def isWatchTarget (target : String) : Bool := target = waitingTarget || target = loadingTarget

/-- The notifications about the watch itself. -/
def commonOf (events : List Event) : List Event :=
  events.filter fun event => event.kind = .common

/-- The common notifications of two parts are those of each. -/
@[simp] theorem commonOf_append (first second : List Event) :
    commonOf (first ++ second) = commonOf first ++ commonOf second :=
  List.filter_append ..

namespace AlertState

/-- Whether a call checks samples. -/
def Operation.isCheck : Operation → Bool
  | .check _ => true
  | _ => false

/-- Whether a call checks no series with the name of a target of the watch. -/
def Operation.spares : Operation → Bool
  | .check samples => samples.all fun sample => !isWatchTarget sample.target
  | _ => true

/-- Whether a call reports nothing but the watch itself. -/
def Operation.ofWatch : Operation → Bool
  | .transition report => report.kind = .common && isWatchTarget report.target
  | _ => true

/-- Two states know the same of the watch. -/
def SameWatch (a b : AlertState) : Prop :=
  ∀ target, isWatchTarget target = true → a.level? target = b.level? target

variable {a b : AlertState}

/-- A report of the watch is notified alike where the same is known of the watch, and the same is
known afterwards. -/
theorem transition_sameWatch (alert : Alert) (same : SameWatch a b) {report : Report}
    (own : isWatchTarget report.target = true) :
    SameWatch (a.transition alert report).1 (b.transition alert report).1 ∧
      (a.transition alert report).2 = (b.transition alert report).2 := by
  have silent := isSilent_congr alert (same report.target own)
  constructor
  · intro target watched
    rw [level?_transition, level?_transition, silent, same target watched]
  · rw [event_transition, event_transition, silent]

/-- A reset keeps what two states have in common. -/
theorem reset_sameWatch (same : SameWatch a b) : SameWatch a.reset b.reset := by
  intro target watched
  rw [level?_reset, level?_reset, same target watched]

/-- The notifications of a check are about series. -/
theorem commonOf_check (state : AlertState) (alert : Alert) (samples : List Sample) :
    commonOf (state.check alert samples).2 = [] := by
  induction samples generalizing state with
  | nil => rfl
  | cons sample rest ih =>
    have kind : (state.reportOf alert sample).kind = .source := by
      unfold reportOf
      split <;> rfl
    have here : commonOf (state.observe alert sample).2.toList = [] := by
      simp only [observe, event_transition]
      split <;> simp [commonOf, Report.event, kind]
    simp only [check, commonOf_append, here, ih, List.append_nil]

/-- The notification of a common report is common. -/
theorem commonOf_transition (state : AlertState) (alert : Alert) {report : Report}
    (common : report.kind = .common) :
    commonOf (state.transition alert report).2.toList =
      (state.transition alert report).2.toList := by
  rw [event_transition]
  split <;> simp [commonOf, Report.event, common]

/-- A check of series with other names keeps the levels of the watch. -/
theorem check_sameWatch (state : AlertState) (alert : Alert) {samples : List Sample}
    (spared : ∀ sample ∈ samples, isWatchTarget sample.target = false) :
    SameWatch (state.check alert samples).1 state := by
  induction samples generalizing state with
  | nil => exact fun _ _ => rfl
  | cons sample rest ih =>
    obtain ⟨here, later⟩ := List.forall_mem_cons.1 spared
    intro target watched
    have other : target ≠ sample.target := by
      rintro rfl
      exact absurd watched (by simp [here])
    rw [check, ih _ later target watched]
    simp [observe, level?_transition, other]

/-- Without its checks a run notifies the same of the watch and knows the same of it, if it checks
no series with the name of a target of the watch. -/
theorem run_without_checks (alert : Alert) (same : SameWatch a b) {calls : List Operation}
    (ofWatch : ∀ call ∈ calls, call.ofWatch = true)
    (spares : ∀ call ∈ calls, call.spares = true) :
    let whole := a.run (calls.map fun call => (alert, call))
    let rest := b.run ((calls.filter fun call => !call.isCheck).map fun call => (alert, call))
    SameWatch whole.1 rest.1 ∧ commonOf whole.2 = rest.2 := by
  induction calls generalizing a b with
  | nil => exact ⟨same, rfl⟩
  | cons call rest ih =>
    obtain ⟨own, ownRest⟩ := List.forall_mem_cons.1 ofWatch
    obtain ⟨spared, sparedRest⟩ := List.forall_mem_cons.1 spares
    cases call with
    | check samples =>
      have others : ∀ sample ∈ samples, isWatchTarget sample.target = false := by
        simpa [Operation.spares] using spared
      have kept := check_sameWatch a alert others
      have later := ih (fun target watched => (kept target watched).trans (same target watched))
        ownRest sparedRest
      simpa [Operation.isCheck, run, perform, commonOf_check] using later
    | transition report =>
      obtain ⟨common, target⟩ : report.kind = .common ∧ isWatchTarget report.target = true := by
        simpa [Operation.ofWatch] using own
      obtain ⟨kept, sent⟩ := transition_sameWatch alert same target
      obtain ⟨last, events⟩ := ih kept ownRest sparedRest
      refine ⟨by simpa [Operation.isCheck, run, perform] using last, ?_⟩
      simp only [List.map_cons, run, perform, commonOf_append, sent,
        commonOf_transition b alert common, events]
      simp [Operation.isCheck, run, perform]
    | reset =>
      simpa [Operation.isCheck, run, perform] using ih (reset_sameWatch same) ownRest sparedRest

/-- Calls that end with a successful load, but for resets and loads that met another one. -/
def EndInSuccess (calls : List Operation) : Prop :=
  ∃ earlier later, calls = earlier ++ .transition Monitor.loadedReport :: later ∧
    ∀ call ∈ later, call = .reset ∨ call = .transition Monitor.overlapReport

/-- Loads that are normal stay so on resets and on loads that meet another one. -/
theorem level?_of_harmless (alert : Alert) {calls : List Operation}
    (normal : a.level? loadingTarget = some .normal)
    (harmless : ∀ call ∈ calls, call = .reset ∨ call = .transition Monitor.overlapReport) :
    (a.run (calls.map fun call => (alert, call))).1.level? loadingTarget = some .normal := by
  induction calls generalizing a with
  | nil => exact normal
  | cons call rest ih =>
    obtain ⟨here, later⟩ := List.forall_mem_cons.1 harmless
    refine ih ?_ later
    rcases here with rfl | rfl
    · simp [level?_reset, normal]
    · have other : loadingTarget ≠ Monitor.overlapReport.target := by decide
      simp [level?_transition, normal, other]

/-- After a successful load the loads stay normal until one fails. -/
theorem level?_of_endInSuccess (alert : Alert) {calls : List Operation} (success : EndInSuccess calls)
    (known : (a.level? loadingTarget).isSome) :
    (a.run (calls.map fun call => (alert, call))).1.level? loadingTarget = some .normal := by
  obtain ⟨earlier, later, rfl, harmless⟩ := success
  have tracked : ((a.run (earlier.map fun call => (alert, call))).1.level?
      Monitor.loadedReport.target).isSome := isSome_level?_calls _ known
  have normal := (transition_of_known alert tracked).1 loadingTarget
  rw [List.map_append, run_append, List.map_cons]
  exact level?_of_harmless alert normal harmless

end AlertState

/-- The target and the level of a notification. -/
def Event.outline (event : Event) : String × Level := (event.target, event.level)

namespace Monitor

open AlertState

/-- What may happen to the watch itself. -/
inductive Happening where
  /-- A load met another one. -/
  | overlap
  /-- A load brought samples. -/
  | loaded
  /-- A load failed or brought nothing. -/
  | failed
  | reset
deriving DecidableEq

namespace Happening

/-- The end of a load: what the samples are does not matter, nor why there are none. -/
def ofOutcome : Except LoadFault (List Sample) → Happening
  | .ok _ => loaded
  | .error _ => failed

/-- The target of the watch that a happening concerns, with the level that it takes: `fault` when a
load failed. A reset concerns no single target. -/
def told (fault : Level) : Happening → Option (String × Level)
  | overlap => some (waitingTarget, .warning)
  | loaded => some (loadingTarget, .normal)
  | failed => some (loadingTarget, fault)
  | reset => none

/-- The levels of the watch after a happening, and what is notified: a target that takes another
level than it had. A reset brings all levels back to normal. -/
def apply (fault : Level) (levels : String → Level) (happening : Happening) :
    (String → Level) × List (String × Level) :=
  match happening.told fault with
  | some (target, level) =>
      (Function.update levels target level,
        if levels target = level then [] else [(target, level)])
  | none => (fun _ => .normal, [])

/-- The levels of the watch after happenings, and what is notified of them in turn. -/
def applyAll (fault : Level) (levels : String → Level) :
    List Happening → (String → Level) × List (String × Level)
  | [] => (levels, [])
  | happening :: rest =>
      let (next, sent) := happening.apply fault levels
      let (last, more) := applyAll fault next rest
      (last, sent ++ more)

/-- A single happening is applied by itself. -/
theorem applyAll_singleton (fault : Level) (levels : String → Level) (happening : Happening) :
    applyAll fault levels [happening] = happening.apply fault levels := by
  simp [applyAll]

/-- Happenings may be applied in parts. -/
theorem applyAll_append (fault : Level) (levels : String → Level) (first second : List Happening) :
    applyAll fault levels (first ++ second) =
      let earlier := applyAll fault levels first
      let later := applyAll fault earlier.1 second
      (later.1, earlier.2 ++ later.2) := by
  induction first generalizing levels with
  | nil => rfl
  | cons happening rest ih => simp only [List.cons_append, applyAll, ih, List.append_assoc]

end Happening

/-- A call that makes a report takes its transition. -/
theorem runCalls_report (m : Monitor) (report : Report) :
    m.runCalls [.transition report] =
      ((m.state.transition m.alert report).1, (m.state.transition m.alert report).2.toList) := by
  simp [runCalls, AlertState.run, perform]

/-- A state has these levels of the watch. -/
def Shows (state : AlertState) (levels : String → Level) : Prop :=
  ∀ target, isWatchTarget target = true → state.level? target = some (levels target)

section Shows

variable {state : AlertState} {levels : String → Level}

/-- States that show the same levels know the same of the watch. -/
theorem sameWatch_of_shows {other : AlertState} (shows : Shows state levels)
    (alike : Shows other levels) : SameWatch state other :=
  fun target watched => (shows target watched).trans (alike target watched).symm

/-- A check of series with other names leaves the levels of the watch as they are. -/
theorem shows_check (shows : Shows state levels) (alert : Alert) {samples : List Sample}
    (spared : ∀ sample ∈ samples, isWatchTarget sample.target = false) :
    Shows (state.check alert samples).1 levels :=
  fun target watched =>
    (check_sameWatch state alert spared target watched).trans (shows target watched)

/-- A reset brings the levels of the watch back to normal. -/
theorem shows_reset (shows : Shows state levels) : Shows state.reset fun _ => .normal := by
  intro target watched
  rw [level?_reset, shows target watched, Option.map_some]

/-- A common report of the watch sets the level of its target, and is notified when that level is
new. -/
theorem shows_transition (shows : Shows state levels) (alert : Alert) {report : Report}
    (own : isWatchTarget report.target = true) (common : report.kind = .common) :
    Shows (state.transition alert report).1 (Function.update levels report.target report.level) ∧
      (commonOf (state.transition alert report).2.toList).map Event.outline =
        if levels report.target = report.level then [] else [(report.target, report.level)] := by
  have known : (state.level? report.target).isSome := by rw [shows _ own, Option.isSome_some]
  obtain ⟨after, sent⟩ := transition_of_known alert known
  constructor
  · intro target watched
    rw [after target, Function.update_apply]
    split
    · rfl
    · exact shows target watched
  · rw [commonOf_transition state alert common, sent, shows _ own]
    by_cases same : levels report.target = report.level <;> simp [same, Event.outline, Report.event]

end Shows

/-- The reports by which a load ends are of the watch. -/
theorem ofWatch_endingCalls (alert : Alert) (outcome : Except LoadFault (List Sample)) :
    ∀ call ∈ endingCalls alert outcome, call.ofWatch = true := by
  cases outcome with
  | ok samples => simp [endingCalls, Operation.ofWatch, loadedReport, commonReport, isWatchTarget]
  | error fault => simp [endingCalls, Operation.ofWatch, failedReport, commonReport, isWatchTarget]

namespace Scene

variable {scene : Scene}

/-- Whether no series is checked that has the name of a target of the watch. -/
def spares (scene : Scene) (occasions : List Occasion) : Bool :=
  (scene.callsOf occasions).all Operation.spares

/-- What happens to the watch on some occasions: loads that meet another one, the outcomes of the
other loads, and resets. -/
def watchCalls (scene : Scene) (occasions : List Occasion) : List Operation :=
  (scene.callsOf occasions).filter fun call => !call.isCheck

/-- What an occasion does to the watch: a load may meet another one, or end in one of two ways. -/
def happening? (scene : Scene) : Occasion → Option Happening
  | .load => if scene.monitor.loading then some .overlap else none
  | .arrival load result =>
      if load ∈ scene.pending ∧ scene.monitor.retired = false then
        some (.ofOutcome (scene.monitor.outcome result))
      else none
  | .reset => some .reset
  | .check _ | .start _ | .stop | .tick => none

/-- What occasions do to the watch, one after the other. -/
def happeningsOf (scene : Scene) : List Occasion → List Happening
  | [] => []
  | occasion :: rest =>
      (scene.happening? occasion).toList ++ (scene.take occasion).scene.happeningsOf rest

/-- The reports that an occasion makes are of the watch. -/
theorem ofWatch_calls (scene : Scene) (occasion : Occasion) :
    ∀ call ∈ scene.calls occasion, call.ofWatch = true := by
  cases occasion with
  | load =>
    simp only [calls]
    split <;> simp [Operation.ofWatch, overlapReport, commonReport, isWatchTarget]
  | arrival load result =>
    simp only [calls]
    split
    · exact ofWatch_endingCalls _ _
    · simp
  | _ => simp [calls, Operation.ofWatch]

/-- The reports that occasions make are of the watch. -/
theorem ofWatch_callsOf (scene : Scene) (occasions : List Occasion) :
    ∀ call ∈ scene.callsOf occasions, call.ofWatch = true := by
  induction occasions generalizing scene with
  | nil => simp [callsOf]
  | cons occasion rest ih =>
    intro call member
    rcases List.mem_append.1 member with here | later
    · exact ofWatch_calls scene occasion call here
    · exact ih _ call later

/-- The samples of a load leave the watch alone, and its end is a happening of the watch. -/
theorem shows_endingCalls {m : Monitor} {levels : String → Level} (shows : Shows m.state levels)
    {outcome : Except LoadFault (List Sample)}
    (spared : ∀ call ∈ endingCalls m.alert outcome, call.spares = true) :
    let ran := m.runCalls (endingCalls m.alert outcome)
    let next := (Happening.ofOutcome outcome).apply m.alert.loadingError levels
    Shows ran.1 next.1 ∧ (commonOf ran.2).map Event.outline = next.2 := by
  cases outcome with
  | ok samples =>
    have others : ∀ sample ∈ samples, isWatchTarget sample.target = false := by
      simpa [endingCalls, Operation.spares] using spared
    have own : isWatchTarget loadedReport.target = true := rfl
    have told := shows_transition (shows_check shows m.alert others) m.alert own rfl
    simp only [runCalls, endingCalls, List.map_cons, List.map_nil, AlertState.run, perform,
      commonOf_append, commonOf_check, List.nil_append, List.append_nil]
    exact told
  | error fault =>
    have own : isWatchTarget (failedReport m.alert fault).target = true := rfl
    rw [endingCalls, runCalls_report]
    exact shows_transition shows m.alert own rfl

/-- An occasion sets the levels of the watch, and notifies of them, as what it does to the watch
says. -/
theorem shows_take {levels : String → Level} (shows : Shows scene.monitor.state levels)
    {occasion : Occasion} (spared : ∀ call ∈ scene.calls occasion, call.spares = true) :
    let turn := scene.take occasion
    let next := Happening.applyAll scene.monitor.alert.loadingError levels
      (scene.happening? occasion).toList
    Shows turn.scene.monitor.state next.1 ∧
      (commonOf turn.effects.events).map Event.outline = next.2 := by
  intro turn next
  have taken := take_eq_runCalls scene occasion
  have state : turn.scene.monitor.state = (scene.monitor.runCalls (scene.calls occasion)).1 :=
    congrArg Prod.fst taken
  have events : turn.effects.events = (scene.monitor.runCalls (scene.calls occasion)).2 :=
    congrArg Prod.snd taken
  rw [state, events]
  cases occasion with
  | load =>
    cases busy : scene.monitor.loading with
    | true =>
      have own : isWatchTarget overlapReport.target = true := rfl
      simp only [next, happening?, calls, busy, if_true, runCalls_report, Option.toList_some,
        Happening.applyAll_singleton]
      exact shows_transition shows scene.monitor.alert own rfl
    | false =>
      simp only [next, happening?, calls, busy, Bool.false_eq_true, if_false]
      exact ⟨shows, rfl⟩
  | arrival load result =>
    by_cases heard : load ∈ scene.pending ∧ scene.monitor.retired = false
    · simp only [calls, if_pos heard] at spared
      simp only [next, happening?, calls, if_pos heard, Option.toList_some, Happening.applyAll_singleton]
      exact shows_endingCalls shows spared
    · simp only [next, happening?, calls, if_neg heard]
      exact ⟨shows, rfl⟩
  | check samples =>
    have others : ∀ sample ∈ samples, isWatchTarget sample.target = false := by
      simpa [calls, Operation.spares] using spared
    simp only [calls, runCalls, List.map_cons, List.map_nil, AlertState.run, perform,
      List.append_nil, commonOf_check]
    exact ⟨shows_check shows scene.monitor.alert others, rfl⟩
  | reset => exact ⟨shows_reset shows, rfl⟩
  | _ => exact ⟨shows, rfl⟩

/-- The levels of the watch after a run, and the targets and levels of its common notifications, are
told from what happened to the watch alone. -/
theorem shows_run {levels : String → Level} (shows : Shows scene.monitor.state levels)
    {occasions : List Occasion} (spared : scene.spares occasions = true) :
    let ran := scene.run occasions
    let told := Happening.applyAll scene.monitor.alert.loadingError levels
      (scene.happeningsOf occasions)
    Shows ran.1.monitor.state told.1 ∧ (commonOf ran.2).map Event.outline = told.2 := by
  induction occasions generalizing scene levels with
  | nil => exact ⟨shows, rfl⟩
  | cons occasion rest ih =>
    obtain ⟨here, later⟩ : (∀ call ∈ scene.calls occasion, call.spares = true) ∧
        (scene.take occasion).scene.spares rest = true := by
      simpa only [spares, callsOf, List.all_append, Bool.and_eq_true, List.all_eq_true] using spared
    obtain ⟨shown, sent⟩ := shows_take shows here
    obtain ⟨last, more⟩ := ih shown later
    rw [(alert_source_take scene occasion).1] at last more
    simpa only [run, happeningsOf, Happening.applyAll_append, commonOf_append, List.map_append, sent,
      more, and_true] using last

/-- The common notifications of a run, and the levels of the watch after it, are those of what
happened to the watch alone. -/
theorem commonOf_run (scene : Scene) {occasions : List Occasion}
    (spared : scene.spares occasions = true) :
    let ran := scene.run occasions
    let watch := scene.monitor.runCalls (scene.watchCalls occasions)
    SameWatch ran.1.monitor.state watch.1 ∧ commonOf ran.2 = watch.2 := by
  intro ran watch
  have whole : (ran.1.monitor.state, ran.2) = scene.monitor.runCalls (scene.callsOf occasions) :=
    run_eq_runCalls scene occasions
  have start : SameWatch scene.monitor.state scene.monitor.state := fun _ _ => rfl
  have each : ∀ call ∈ scene.callsOf occasions, call.spares = true := by
    simpa [spares] using spared
  have erased :=
    run_without_checks scene.monitor.alert start (ofWatch_callsOf scene occasions) each
  simp only [runCalls] at whole
  rw [← whole] at erased
  exact erased

/-- A successful load that finds the loads normal is not notified. -/
theorem commonOf_success {occasion : Occasion}
    (normal : scene.monitor.state.level? loadingTarget = some .normal)
    (spared : scene.spares [occasion] = true)
    (success : scene.watchCalls [occasion] = [.transition loadedReport]) :
    commonOf (scene.take occasion).effects.events = [] := by
  have silent : scene.monitor.state.isSilent scene.monitor.alert loadedReport = true := by
    simp [isSilent, loadedReport, commonReport, normal]
  have common := (commonOf_run scene spared).2
  simpa [run, success, runCalls, AlertState.run, perform, event_transition, silent] using common

/-- At first the watch is in order. -/
theorem shows_opening (alert : Alert) (source : Source) (debug : Bool) :
    Shows (opening alert source debug).monitor.state fun _ => .normal := by
  intro target watched
  have own : target = loadingTarget ∨ target = waitingTarget := by
    simpa [isWatchTarget, or_comm] using watched
  exact (level?_initial alert.historySize target).trans (if_pos own)

/-- As long as no series has the name of a target of the watch, the levels of the watch after a run
and the targets and levels of its common notifications are told from which loads met another one,
which brought samples and which failed, and from the resets. So two runs for one alert on which the
same happens to the watch are alike in them, whatever samples they bring and whatever their failures
say; where the failures say the same too, the notifications are the same in all. A successful load
after a successful one is not notified. -/
theorem common_of_outcomes (alert : Alert) (source other : Source) (debug otherDebug : Bool)
    (first second : List Occasion)
    (spared : (opening alert source debug).spares first = true)
    (otherSpared : (opening alert other otherDebug).spares second = true) :
    let one := (opening alert source debug).run first
    let two := (opening alert other otherDebug).run second
    let happenings := (opening alert source debug).happeningsOf first
    let told := Happening.applyAll alert.loadingError (fun _ => .normal) happenings
    (Shows one.1.monitor.state told.1 ∧ (commonOf one.2).map Event.outline = told.2) ∧
      (happenings = (opening alert other otherDebug).happeningsOf second →
        SameWatch one.1.monitor.state two.1.monitor.state ∧
          (commonOf one.2).map Event.outline = (commonOf two.2).map Event.outline) ∧
      ((opening alert source debug).watchCalls first =
          (opening alert other otherDebug).watchCalls second →
        commonOf one.2 = commonOf two.2 ∧
          SameWatch one.1.monitor.state two.1.monitor.state) ∧
      (EndInSuccess ((opening alert source debug).watchCalls first) →
        ∀ occasion, one.1.spares [occasion] = true →
          one.1.watchCalls [occasion] = [.transition loadedReport] →
          commonOf (one.1.take occasion).effects.events = []) := by
  intro one two happenings told
  obtain ⟨levels, events⟩ := commonOf_run (opening alert source debug) spared
  obtain ⟨otherLevels, otherEvents⟩ := commonOf_run (opening alert other otherDebug) otherSpared
  obtain ⟨shown, outlines⟩ := shows_run (shows_opening alert source debug) spared
  obtain ⟨otherShown, otherOutlines⟩ := shows_run (shows_opening alert other otherDebug) otherSpared
  refine ⟨⟨shown, outlines⟩, ?_, ?_, ?_⟩
  · intro same
    rw [← same] at otherShown otherOutlines
    exact ⟨sameWatch_of_shows shown otherShown, outlines.trans otherOutlines.symm⟩
  · intro same
    rw [← same] at otherLevels otherEvents
    exact ⟨events.trans otherEvents.symm, fun target watched =>
      (levels target watched).trans (otherLevels target watched).symm⟩
  · intro success occasion spares loaded
    have watched : isWatchTarget loadingTarget = true := by decide
    have known := isSome_level?_opening alert source debug (.inr (Eq.refl loadingTarget))
    have normal : one.1.monitor.state.level? loadingTarget = some .normal :=
      (levels loadingTarget watched).trans (level?_of_endInSuccess alert success known)
    exact commonOf_success normal spares loaded

/-- Two loads that bring samples of different series are alike for the watch, and so are one that is
refused and one that brings nothing, but for what their failures say. -/
theorem common_of_two_loads :
    let first : List Occasion := [.load, .arrival 0 (.ok ⟨200, "a,1,2,60|1\n"⟩)]
    let second : List Occasion := [.load, .arrival 0 (.ok ⟨200, "b,1,2,60|120\nc,1,2,60|\n"⟩)]
    let refused : List Occasion := [.load, .arrival 0 (.ok ⟨500, ""⟩)]
    let empty : List Occasion := [.load, .arrival 0 (.ok ⟨200, ""⟩)]
    (cpu.spares first = true ∧ cpu.spares second = true ∧
        cpu.watchCalls first = cpu.watchCalls second ∧
        commonOf (cpu.run first).2 = commonOf (cpu.run second).2) ∧
      cpu.spares refused = true ∧ cpu.spares empty = true ∧
        cpu.watchCalls refused ≠ cpu.watchCalls empty ∧
        cpu.happeningsOf refused = cpu.happeningsOf empty ∧
        (commonOf (cpu.run refused).2).map Event.outline =
          (commonOf (cpu.run empty).2).map Event.outline := by
  intro first second refused empty
  have spared : cpu.spares first = true := by decide +kernel
  have otherSpared : cpu.spares second = true := by decide +kernel
  have same : cpu.watchCalls first = cpu.watchCalls second := by decide +kernel
  have sparedRefused : cpu.spares refused = true := by decide +kernel
  have sparedEmpty : cpu.spares empty = true := by decide +kernel
  have alike : cpu.happeningsOf refused = cpu.happeningsOf empty := by decide +kernel
  have loads := common_of_outcomes cpuAlert cpuSource cpuSource false false first second spared
    otherSpared
  have failures := common_of_outcomes cpuAlert cpuSource cpuSource false false refused empty
    sparedRefused sparedEmpty
  exact ⟨⟨spared, otherSpared, same, (loads.2.2.1 same).1⟩, sparedRefused, sparedEmpty,
    by decide +kernel, alike, (failures.2.1 alike).2⟩

/-- A series that has the name of the target for loads makes a successful load notified that
follows a successful one, where a series of another name does not. -/
theorem series_named_loading_notifies :
    let scene := (cpu.run [.load, .arrival 0 (.ok ⟨200, "a,1,2,60|1\n"⟩), .load]).1
    let plain : FetchResult := .ok ⟨200, "a,1,2,60|120\n"⟩
    let named : FetchResult := .ok ⟨200, "loading,1,2,60|120\n"⟩
    (scene.monitor.outcome plain).isOk = true ∧ (scene.monitor.outcome named).isOk = true ∧
      (commonOf (scene.take (.arrival 1 plain)).effects.events).map
        (fun event => (event.target, event.level)) = [] ∧
      (commonOf (scene.take (.arrival 1 named)).effects.events).map
        (fun event => (event.target, event.level)) = [(loadingTarget, .normal)] := by
  decide +kernel

end Scene

end Monitor

end Vigil
