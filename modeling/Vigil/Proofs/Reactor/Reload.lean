import Vigil.Reactor.Basic

/-!
# One reload

A reload has three ends. Its periods are refused before anything is touched. Or the setup is
replaced and then found barren, which happens at the first options only. Or the new options are
adopted. A reactor to which options were applied once stays so, and knows the first and the last
of these ends alone.
-/

namespace Vigil.Reactor

variable {reactor : Reactor} {now : Moment} {options : Options} {fault : ReactorFault}
  {period limit : Duration}

/-- The reactor with the handlers and the monitors of options, before they are adopted. -/
def replaced (reactor : Reactor) (now : Moment) (options : Options) (limit : Duration) : Reactor :=
  (reactor.replaceSetup now options limit).1

/-- Periods that are refused end a reload before it begins. -/
theorem reinit_of_refused (refused : readPeriods options = .error fault) :
    (reactor.reinit now options).1 = reactor ∧
      (reactor.reinit now options).2.2 = .error fault := by
  simp [reinit, refused]

/-- A reload that finds its setup barren leaves it as it is. -/
theorem reinit_of_barren (read : readPeriods options = .ok (period, limit))
    (barren : (reactor.replaced now options limit).isBarren options = true) :
    (reactor.reinit now options).1 = reactor.replaced now options limit ∧
      (reactor.reinit now options).2.2 = .error .noAlerts := by
  unfold replaced at barren ⊢
  simp [reinit, read, barren]

/-- Any other reload adopts its options, and counts the monitors. -/
theorem reinit_of_accepted (read : readPeriods options = .ok (period, limit))
    (fruitful : (reactor.replaced now options limit).isBarren options = false) :
    (reactor.reinit now options).1 = (reactor.replaced now options limit).adopt now options period ∧
      (reactor.reinit now options).2.2 = .ok (reactor.replaced now options limit).size := by
  unfold replaced at fruitful ⊢
  simp [reinit, read, fruitful]

/-- What holds of a reactor at each of the three ends of a reload holds after the reload. -/
theorem reinit_invariant (kept : Reactor → Prop) (refused : kept reactor)
    (barren : ∀ limit, kept (reactor.replaced now options limit))
    (accepted : ∀ period limit, readPeriods options = .ok (period, limit) →
      kept ((reactor.replaced now options limit).adopt now options period)) :
    kept (reactor.reinit now options).1 := by
  cases read : readPeriods options with
  | error fault =>
    rw [(reinit_of_refused read).1]
    exact refused
  | ok periods =>
    cases fruit : (reactor.replaced now options periods.2).isBarren options with
    | true =>
      rw [(reinit_of_barren read fruit).1]
      exact barren periods.2
    | false =>
      rw [(reinit_of_accepted read fruit).1]
      exact accepted periods.1 periods.2 read

/-- A setup is barren only before options were applied once. -/
theorem isBarren_of_initialized (initialized : reactor.initialized = true) :
    reactor.isBarren options = false := by
  simp [isBarren, initialized]

/-- The period of the repeater is not refused for want of alerts. -/
theorem readRepeatPeriod_ne_noAlerts (options : Options) :
    readRepeatPeriod options ≠ .error .noAlerts := by
  unfold readRepeatPeriod
  split
  · simp
  · split <;> simp

/-- Nor is the limit of the handlers. -/
theorem readLimit_ne_noAlerts (options : Options) : readLimit options ≠ .error .noAlerts := by
  unfold readLimit
  split <;> simp

/-- Whatever is wrong with the periods, it is not that there are no alerts. -/
theorem readPeriods_ne_noAlerts (options : Options) : readPeriods options ≠ .error .noAlerts := by
  unfold readPeriods
  cases first : readRepeatPeriod options with
  | error fault => simpa [first] using readRepeatPeriod_ne_noAlerts options
  | ok period =>
    cases second : readLimit options with
    | error fault => simpa [second, Except.map] using readLimit_ne_noAlerts options
    | ok limit => simp [Except.map]

/-- Once options were applied, a reload applies its options or is refused for their periods. -/
theorem reinit_of_initialized (initialized : reactor.initialized = true) (now : Moment)
    (options : Options) :
    (∃ fault, readPeriods options = .error fault ∧ (reactor.reinit now options).1 = reactor ∧
      (reactor.reinit now options).2.2 = .error fault) ∨
    ∃ period limit, readPeriods options = .ok (period, limit) ∧
      (reactor.reinit now options).1 =
        (reactor.replaced now options limit).adopt now options period ∧
      (reactor.reinit now options).2.2 = .ok (reactor.replaced now options limit).size := by
  cases read : readPeriods options with
  | error fault => exact .inl ⟨fault, rfl, reinit_of_refused read⟩
  | ok periods =>
    have fruitful : (reactor.replaced now options periods.2).isBarren options = false :=
      isBarren_of_initialized initialized
    exact .inr ⟨periods.1, periods.2, rfl, reinit_of_accepted read fruitful⟩

/-- Options that were applied once stay applied, whether a reload is refused or not. -/
theorem initialized_reinit (initialized : reactor.initialized = true) (now : Moment)
    (options : Options) : (reactor.reinit now options).1.initialized = true := by
  rcases reinit_of_initialized initialized now options with
    ⟨fault, -, same, -⟩ | ⟨period, limit, -, adopted, -⟩
  · rw [same, initialized]
  · rw [adopted]
    rfl

/-- A reload that succeeds adopts its options, and counts the monitors. -/
theorem adopted_of_applied {count : Nat}
    (applied : (reactor.reinit now options).2.2 = .ok count) :
    ∃ period limit, readPeriods options = .ok (period, limit) ∧
      (reactor.reinit now options).1 =
        (reactor.replaced now options limit).adopt now options period ∧
      count = (reactor.replaced now options limit).size := by
  cases read : readPeriods options with
  | error fault =>
    rw [(reinit_of_refused read).2] at applied
    cases applied
  | ok periods =>
    cases fruit : (reactor.replaced now options periods.2).isBarren options with
    | true =>
      rw [(reinit_of_barren read fruit).2] at applied
      cases applied
    | false =>
      obtain ⟨adopted, counted⟩ := reinit_of_accepted read fruit
      exact ⟨periods.1, periods.2, rfl, adopted, Except.ok.inj (applied.symm.trans counted)⟩

/-- Options are applied by the reload that succeeds. -/
theorem initialized_of_reinit_ok {count : Nat}
    (applied : (reactor.reinit now options).2.2 = .ok count) :
    (reactor.reinit now options).1.initialized = true := by
  obtain ⟨period, limit, -, adopted, -⟩ := adopted_of_applied applied
  rw [adopted]
  rfl

/-- A reactor is made when the period of its repeater is read and its first options are applied. -/
theorem make_eq_ok_iff {sources : SourceRegistry} {registry : HandlerRegistry} :
    (make options sources registry now).2 = .ok reactor ↔
      ∃ period count, readRepeatPeriod options = .ok period ∧
        ((blank options sources registry period).reinit now options).2.2 = .ok count ∧
        reactor = ((blank options sources registry period).reinit now options).1 := by
  unfold make
  cases read : readRepeatPeriod options with
  | error fault => simp
  | ok period =>
    dsimp only
    split
    · rename_i applied
      simp [applied, eq_comm]
    · rename_i refused
      simp [refused]

/-- A reactor that was made has its first options applied. -/
theorem initialized_of_make {sources : SourceRegistry} {registry : HandlerRegistry}
    (made : (make options sources registry now).2 = .ok reactor) : reactor.initialized = true := by
  obtain ⟨period, count, -, applied, rfl⟩ := make_eq_ok_iff.1 made
  exact initialized_of_reinit_ok applied

/-- The parts of a reactor that are at work: the queue, the dispatcher and the repeater. -/
structure Engine where
  queue : List Event
  dispatcher : Option Dispatcher
  repeater : Option Ticker
  running : Bool

/-- The parts of a reactor that are at work. -/
def engine (reactor : Reactor) : Engine :=
  ⟨reactor.queue, reactor.dispatcher, reactor.repeater, reactor.running⟩

/-- A reload leaves the parts alone that are at work, whatever its end. -/
theorem engine_reinit (reactor : Reactor) (now : Moment) (options : Options) :
    (reactor.reinit now options).1.engine = reactor.engine :=
  reinit_invariant (fun after => after.engine = reactor.engine) rfl (fun _ => rfl) fun _ _ _ => rfl

end Vigil.Reactor
