import Mathlib.Data.List.Induction
import Vigil.Proofs.Reactor.LifeCycle

/-!
# The period of the repeater

The repeater of a reactor that runs was armed by the last start, with the repeat interval of the
options of that moment, and goes from each due time to the next by that period. Options that are
applied while the reactor runs do not reach it: the repeat interval among them counts from the next
start on.
-/

namespace Vigil.Reactor

variable {reactor : Reactor} {now : Moment} {options : Options}

/-- The period that is kept for the repeater is the repeat interval of the options. -/
def HasPeriod (reactor : Reactor) : Prop :=
  readRepeatPeriod reactor.options = .ok reactor.repeatPeriod

/-- The periods of options are read when that of the repeater is. -/
theorem readRepeatPeriod_of_readPeriods {period limit : Duration}
    (read : readPeriods options = .ok (period, limit)) : readRepeatPeriod options = .ok period := by
  unfold readPeriods at read
  cases first : readRepeatPeriod options with
  | error fault => simp [first] at read
  | ok own =>
    cases second : readLimit options with
    | error fault => simp [first, second, Except.map] at read
    | ok limit => simp_all [Except.map]

/-- Options that are applied bring their period, and options that are refused change none. -/
theorem hasPeriod_reinit (has : reactor.HasPeriod) (now : Moment) (options : Options) :
    (reactor.reinit now options).1.HasPeriod :=
  reinit_invariant HasPeriod has (fun _ => has) fun _ _ read => readRepeatPeriod_of_readPeriods read

/-- A reactor that was made has the period of its options. -/
theorem hasPeriod_of_make {sources : SourceRegistry} {registry : HandlerRegistry}
    (made : (make options sources registry now).2 = .ok reactor) : reactor.HasPeriod := by
  obtain ⟨period, count, read, -, rfl⟩ := make_eq_ok_iff.1 made
  have first : (blank options sources registry period).HasPeriod := read
  exact hasPeriod_reinit first now options

/-- A ticker that goes on is due one period later. -/
theorem advance_due (start count : Nat) (period : Duration) :
    Ticker.advance ⟨start + count * period.nanoseconds, period⟩ =
      ⟨start + (count + 1) * period.nanoseconds, period⟩ := by
  simp [Ticker.advance, Nat.succ_mul, Nat.add_assoc]

/-- An occasion on which the repeater is due. -/
def Occasion.isRepeat : Occasion → Bool
  | .repeatNow => true
  | _ => false

namespace Scene

variable {scene : Scene} {occasion : Occasion}

/-- Whatever happens, the period is that of the options. -/
theorem hasPeriod_take (has : scene.reactor.HasPeriod) (occasion : Occasion) :
    (scene.take occasion).reactor.HasPeriod := by
  cases other : occasion.isReload with
  | false =>
    have same := setup_take scene other
    have options := congrArg Setup.options same
    have period := congrArg Setup.repeatPeriod same
    simp only [setup] at options period
    rw [HasPeriod, options, period]
    exact has
  | true =>
    cases occasion with
    | reinit now options => exact hasPeriod_reinit has now options
    | _ => cases other

/-- A reactor runs after an occasion on which it did not run before only if it was started. -/
theorem start_of_running_take (resting : scene.reactor.running = false)
    (runs : (scene.take occasion).reactor.running = true) :
    ∃ now, occasion = .start now ∧
      (scene.take occasion).reactor = scene.reactor.launch now := by
  cases switch : occasion.isSwitch with
  | false =>
    have same : (scene.take occasion).reactor.running = scene.reactor.running :=
      congrArg Switches.running (switches_take scene switch)
    rw [same, resting] at runs
    cases runs
  | true =>
    cases occasion with
    | start now =>
      refine ⟨now, rfl, ?_⟩
      cases wrote : scene.reactor.writePidfile scene.host with
      | error fault =>
        simp [take, start_of_unwritten resting wrote, resting] at runs
      | ok written => simp [take, start_of_written resting wrote]
    | requestStop =>
      simp [take, become, requestStop_of_resting resting, resting] at runs
    | endStop =>
      have same : (scene.take .endStop).reactor.running = scene.reactor.running := by
        simp only [take]
        split <;> rfl
      rw [same, resting] at runs
      cases runs
    | _ => cases switch

/-- While a reactor runs, its repeater goes on when it is due, and is left alone otherwise. -/
theorem repeater_take (running : scene.reactor.running = true)
    (runs : (scene.take occasion).reactor.running = true) :
    (scene.take occasion).reactor.repeater =
      if occasion.isRepeat then scene.reactor.repeater.map Ticker.advance
      else scene.reactor.repeater := by
  cases occasion with
  | reinit now options =>
    have same : (scene.reactor.reinit now options).1.repeater = scene.reactor.repeater :=
      congrArg Engine.repeater (engine_reinit scene.reactor now options)
    simpa [take, become, Occasion.isRepeat] using same
  | start now => simp [take, start_of_running running, Occasion.isRepeat]
  | requestStop => simp [take, become, requestStop_of_running running] at runs
  | endStop =>
    simp only [take, Occasion.isRepeat]
    split <;> rfl
  | repeatNow =>
    simp only [take, Occasion.isRepeat]
    split
    · rfl
    · rename_i none
      simp [Option.not_isSome_iff_eq_none.1 none]
  | notified place =>
    simp only [take, Occasion.isRepeat]
    split <;> rfl
  | dispatch now =>
    simp only [take, become, dispatch, Occasion.isRepeat]
    split <;> rfl
  | finishDispatch =>
    simp only [take, become, finishDispatch, Occasion.isRepeat]
    split <;> rfl
  | fire key =>
    simp only [take, become, fire, Occasion.isRepeat]
    split <;> rfl
  | arrival key result =>
    simp only [take, Occasion.isRepeat]
    split
    · simp only [become, finishLoad]
      split <;> rfl
    · rfl
  | _ => rfl

end Scene

namespace Session

variable {first session : Session} {before after occasions : List Occasion} {occasion : Occasion}
  {later : Moment} {period : Duration}

/-- The reactor was started last at a moment, after and before certain occasions. Its repeater has
the period of the options of that moment, and was armed then; it is due one period after the last
time. The options are still the same if none were applied since. -/
structure StartedLast (first : Session) (before : List Occasion) (later : Moment)
    (after : List Occasion) (period : Duration) : Prop where
  resting : (first.run before).reactor.running = false
  running : ∀ part, part <+: after →
    (first.run (before ++ .start later :: part)).reactor.running = true
  read : readRepeatPeriod (first.run before).reactor.options = .ok period
  repeater : (first.run (before ++ .start later :: after)).reactor.repeater =
    some ⟨later.elapsed * Ticker.scale + (after.countP (·.isRepeat) + 1) * period.nanoseconds,
      period⟩
  options : (∀ occasion ∈ after, occasion.isReload = false) →
    readRepeatPeriod (first.run (before ++ .start later :: after)).reactor.options = .ok period

/-- Whatever was called and happened, the period is that of the options. -/
theorem hasPeriod_run (has : session.reactor.HasPeriod) (occasions : List Occasion) :
    (session.run occasions).reactor.HasPeriod := by
  refine run_invariant (fun session => session.reactor.HasPeriod) ?_ occasions has
  intro session occasion has
  rcases take_eq_or session occasion with taken | ⟨same, -⟩
  · rw [reactor, taken]
    exact Scene.hasPeriod_take has occasion
  · rwa [same]

/-- The start of a reactor that did not run arms its repeater. -/
theorem startedLast_start (has : (first.run before).reactor.HasPeriod)
    (resting : (first.run before).reactor.running = false)
    (runs : ((first.run before).take occasion).reactor.running = true) :
    ∃ later period, occasion = .start later ∧ StartedLast first before later [] period := by
  rcases take_eq_or (first.run before) occasion with taken | ⟨same, -⟩
  · have scene : ((first.run before).take occasion).reactor =
        ((first.run before).scene.take occasion).reactor := congrArg Scene.reactor taken
    rw [scene] at runs
    obtain ⟨later, rfl, launched⟩ := Scene.start_of_running_take resting runs
    have ran : (first.run (before ++ [.start later])).reactor =
        (first.run before).reactor.launch later := by
      rw [run_concat, scene, launched]
    refine ⟨later, _, rfl, resting, ?_, has, ?_, ?_⟩
    · intro part none
      obtain rfl := List.prefix_nil.1 none
      rw [ran]
      rfl
    · rw [ran]
      simp [launch, Ticker.now, Ticker.advance]
    · intro _
      rw [ran]
      exact has
  · rw [same, resting] at runs
    cases runs

/-- While a reactor runs, its repeater goes on when it is due, and is left alone otherwise. A call
that has to wait is not the repeater that is due. -/
theorem repeater_take (running : session.reactor.running = true)
    (runs : (session.take occasion).reactor.running = true) :
    (session.take occasion).reactor.repeater =
      if occasion.isRepeat then session.reactor.repeater.map Ticker.advance
      else session.reactor.repeater := by
  rcases take_eq_or session occasion with taken | ⟨same, call⟩
  · rw [reactor, taken] at runs ⊢
    exact Scene.repeater_take running runs
  · have steady : occasion.isRepeat = false := by
      cases occasion <;> first | rfl | cases call
    rw [same, steady]
    rfl

/-- Only a reload changes the options. -/
theorem options_take (session : Session) (other : occasion.isReload = false) :
    (session.take occasion).reactor.options = session.reactor.options := by
  rcases take_eq_or session occasion with taken | ⟨same, -⟩
  · rw [reactor, taken]
    exact congrArg Setup.options (Scene.setup_take session.scene other)
  · rw [same]

/-- As long as the reactor runs, the start before was the last one. -/
theorem startedLast_concat (started : StartedLast first before later after period)
    (runs : (first.run (before ++ .start later :: (after ++ [occasion]))).reactor.running = true) :
    StartedLast first before later (after ++ [occasion]) period := by
  have running := started.running after (List.prefix_refl after)
  have split : first.run (before ++ .start later :: (after ++ [occasion])) =
      (first.run (before ++ .start later :: after)).take occasion := by
    rw [← run_concat, List.append_assoc, List.cons_append]
  refine ⟨started.resting, ?_, started.read, ?_, ?_⟩
  · intro part within
    rcases List.prefix_concat_iff.1 within with rfl | earlier
    · exact runs
    · exact started.running part earlier
  · rw [split] at runs
    rw [split, repeater_take running runs, started.repeater]
    cases repeats : occasion.isRepeat with
    | false => simp [List.countP_append, repeats]
    | true =>
      have counted : (after ++ [occasion]).countP (·.isRepeat) =
          after.countP (·.isRepeat) + 1 := by
        simp [List.countP_append, repeats]
      rw [counted, if_pos rfl, Option.map_some, advance_due]
  · intro unchanged
    have others := fun past among => unchanged past (List.mem_append_left _ among)
    have last := unchanged occasion (List.mem_append_right _ (List.mem_singleton_self occasion))
    rw [split, options_take _ last]
    exact started.options others

/-- While a reactor runs, its repeater has the repeat interval of the options with which it was
started last, and is due after each full period since then. It is the repeat interval of the current
options unless others were applied since that start. -/
theorem repeater_of_run {options : Options} {sources : SourceRegistry}
    {registry : HandlerRegistry} {now : Moment} {reactor : Reactor}
    (made : (make options sources registry now).2 = .ok reactor) (host : Host)
    (occasions : List Occasion)
    (running : ((opening reactor host).run occasions).reactor.running = true) :
    ∃ before later after period, occasions = before ++ .start later :: after ∧
      StartedLast (opening reactor host) before later after period := by
  have has (occasions : List Occasion) :
      ((opening reactor host).run occasions).reactor.HasPeriod :=
    hasPeriod_run (hasPeriod_of_make made) occasions
  induction occasions using List.reverseRecOn with
  | nil =>
    have resting : (opening reactor host).reactor.running = false :=
      running_of_inPhase (inPhase_opening made host)
    rw [run, List.foldl_nil, resting] at running
    cases running
  | append_singleton occasions occasion ih =>
    cases before : ((opening reactor host).run occasions).reactor.running with
    | false =>
      rw [run_concat] at running
      obtain ⟨later, period, rfl, started⟩ := startedLast_start (has occasions) before running
      exact ⟨occasions, later, [], period, rfl, started⟩
    | true =>
      obtain ⟨past, later, after, period, rfl, started⟩ := ih before
      rw [List.append_assoc, List.cons_append] at running
      exact ⟨past, later, after ++ [occasion], period, by simp,
        startedLast_concat started running⟩

/-- The repeater of a reactor that was started, reloaded, stopped and started again. -/
theorem repeater_of_restart :
    (make cpuOptions .standard .standard ⟨0, 0⟩).2 = .ok cpuReactor ∧
      ((opening cpuReactor bareHost).run restart).reactor.running = true ∧
      ∃ before later after period, restart = before ++ .start later :: after ∧
        StartedLast (opening cpuReactor bareHost) before later after period := by
  have running : ((opening cpuReactor bareHost).run restart).reactor.running = true := by
    decide +kernel
  exact ⟨make_cpuReactor, running, repeater_of_run make_cpuReactor bareHost restart running⟩

/-- The options of that reactor with another repeat interval, for examples. -/
def hastyOptions : Options := { cpuOptions with repeatInterval := .text "1minute" }

/-- Options that are applied while the reactor runs do not reach its repeater, although they are
current and their repeat interval is kept. -/
theorem reload_keeps_repeater :
    (make cpuOptions .standard .standard ⟨0, 0⟩).2 = .ok cpuReactor ∧
      (((opening cpuReactor bareHost).run [.start ⟨0, 0⟩]).reactor.reinit ⟨5000, 5000⟩
        hastyOptions).2.2 = .ok 1 ∧
      let reloaded := (opening cpuReactor bareHost).run
        [.start ⟨0, 0⟩, .reinit ⟨5000, 5000⟩ hastyOptions]
      reloaded.stopping = false ∧ reloaded.reactor.running = true ∧
        reloaded.reactor.options = hastyOptions ∧
        readRepeatPeriod hastyOptions = .ok (.ofWholeSeconds 60) ∧
        reloaded.reactor.repeater.map (·.period) = some (.ofWholeSeconds 7200) := by
  exact ⟨make_cpuReactor, by decide +kernel⟩

end Session

end Vigil.Reactor
