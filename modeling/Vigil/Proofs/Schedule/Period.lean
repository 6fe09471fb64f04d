import Vigil.Proofs.Alert.Compilation
import Vigil.Proofs.Cron.Bounds
import Vigil.Proofs.Interval.Length
import Vigil.Reactor.Basic

/-!
# Positive periods

A setting is accepted as a schedule only with a period that a timer can wait. For a fixed interval
that is checked on the nanoseconds, and it follows for the milliseconds: not-a-number and infinity
are no duration, nor are numbers below zero, and a length without a quantum has no nanosecond. For a
cron expression it follows from the order of its firings, whatever reads the expression and tells
when it fires. So no timer is made with a period of zero, no alert divides by an interval that is not
positive, and the repeater of the reactor has a period.
-/

namespace Vigil

attribute [local irreducible] Grid.quantumBits

/-- What is known of a reader of cron expressions: each firing is a whole second after the one
before it, and it has a date. Dates end in the year 262142, which is less than `2 ^ 43` seconds
away. -/
structure CronReader.Lawful {C : Type} (reader : CronReader C) : Prop where
  later : ∀ {text fires after time}, reader.read text = some fires →
    reader.next fires after = some time → after < time
  dated : ∀ {text fires after time}, reader.read text = some fires →
    reader.next fires after = some time → time < 2 ^ 43

/-- The reader of the expressions here has firings one after the other, until the year 2100. -/
theorem Cron.lawful_reader : Cron.reader.Lawful where
  later _ found := lt_of_next found
  dated reads found := Nat.lt_trans (next_lt (bounded_of_read reads) found) (by decide)

namespace Schedule

/-- The poll interval is finite and above zero, a fixed interval has a period for the timer, and
firings are at least a second apart. -/
structure Positive (schedule : Schedule) : Prop where
  finite : schedule.interval.millis.isFinite = true
  positive : (0 : Double).lt schedule.interval.millis = true
  period : ∀ length period, schedule = .every length period → 0 < period.nanoseconds
  gap : ∀ expression fires length, schedule = .cron expression fires length →
    (1000 : Double).le length.millis = true

/-- A fixed interval is accepted with a positive period only. -/
theorem positive_of_ofInterval {length : Interval} {schedule : Schedule}
    (accepted : ofInterval length = .ok schedule) : schedule.Positive := by
  unfold ofInterval at accepted
  split at accepted
  · cases accepted
  · rename_i period found
    split at accepted
    · cases accepted
    · rename_i nonzero
      cases accepted
      obtain ⟨n, same, low, high⟩ := Interval.exists_millis_of_duration found nonzero
      have some : 0 < n.count := Magnitude.value_pos_iff.1 (lt_trans (by positivity) low)
      refine ⟨?_, ?_, ?_, fun _ _ _ same => by cases same⟩
      · rw [interval, same]
        rfl
      · rw [interval, same, Double.zero_lt_finite]
        exact some
      · rintro _ _ ⟨⟩
        exact Nat.pos_of_ne_zero nonzero

/-- A whole number of seconds that is short has a finite length, a thousand times as many
milliseconds. -/
theorem millis_of_seconds {n : Nat} (short : n * 125 ≤ 2 ^ 53) :
    Interval.millis ⟨.ofNat n, .second⟩ = .whole false (n * 1000) := by
  have held : Grid.Held n := Grid.held_of_le (by omega)
  have thousand : Grid.Held 1000 := Grid.held_of_le (by decide)
  exact Double.whole_mul_whole false false held thousand

/-- The interval of the milliseconds of whole seconds that are few is the number of the seconds. -/
theorem eq_of_ofMillis {n : Nat} {length : Interval} (short : n * 125 ≤ 2 ^ 53)
    (made : ofMillis (n * 1000) = .ok length) : length = ⟨.ofNat n, .second⟩ := by
  have held : Grid.Held (n * 1000) := Grid.held_mul_thousand short
  have thousand : Grid.Held 1000 := Grid.held_of_le (by decide)
  have quotient := Double.whole_div_whole false false held thousand (by decide)
  rw [bne_self_eq_false, Nat.mul_comm n, Double.ofRatio_mul false (by decide)] at quotient
  rw [Interval.eq_of_make made, Double.literal_eq_whole 1000, Double.ofNat_eq_whole,
    Double.ofNat_eq_whole, Nat.mul_comm n, quotient]

/-- A cron expression that is read fires twice after now, and its period is the time between these
firings. -/
theorem firings_of_readCron {C : Type} {reader : CronReader C} {now : Int} {expression : String}
    {fires : C} {period : Interval}
    (reads : readCron reader now expression = .ok (fires, period)) :
    reader.read (normalizeCron expression.toList) = some fires ∧
      ∃ first second, reader.next fires (wholeSecond now) = some first ∧
        reader.next fires first = some second ∧
        ofMillis ((second - first) * 1000) = .ok period := by
  unfold readCron at reads
  split at reads
  · cases reads
  · rename_i own found
    split at reads
    · cases reads
    · rename_i millis counted
      obtain ⟨first, here, counted⟩ := Option.bind_eq_some_iff.1 counted
      obtain ⟨second, there, counted⟩ := Option.bind_eq_some_iff.1 counted
      generalize made : ofMillis millis = length at reads
      rw [← Option.some.inj counted] at made
      cases length with
      | error e => cases reads
      | ok length =>
        cases reads
        exact ⟨found, first, second, here, there, made⟩

/-- The period of a cron expression is the number of seconds between two firings, one at least. -/
theorem exists_gap_of_readCron {C : Type} {reader : CronReader C} (lawful : reader.Lawful)
    {now : Int} {expression : String} {fires : C} {period : Interval}
    (reads : readCron reader now expression = .ok (fires, period)) :
    ∃ gap, 1 ≤ gap ∧ gap < 2 ^ 43 ∧ period = ⟨.ofNat gap, .second⟩ := by
  obtain ⟨found, first, second, here, there, made⟩ := firings_of_readCron reads
  have later := lawful.later found there
  have dated := lawful.dated found there
  exact ⟨second - first, by omega, by omega, eq_of_ofMillis (by omega) made⟩

/-- The firings of a cron expression are at least a second apart, and less than forever. -/
theorem positive_of_readCron {C : Type} {reader : CronReader C} (lawful : reader.Lawful)
    {now : Int} {expression : String} {fires : C} {period : Interval}
    (reads : readCron reader now expression = .ok (fires, period)) :
    period.millis.isFinite = true ∧ (0 : Double).lt period.millis = true ∧
      (1000 : Double).le period.millis = true := by
  obtain ⟨gap, least, most, rfl⟩ := exists_gap_of_readCron lawful reads
  have length := millis_of_seconds (n := gap) (by omega)
  have held : Grid.Held (gap * 1000) := Grid.held_mul_thousand (by omega)
  have finite := Double.whole_of_held false held
  refine ⟨?_, ?_, ?_⟩
  · rw [length, finite]
    rfl
  · rw [length, finite, Double.zero_lt_finite]
    exact Nat.mul_pos (by omega) Grid.one_pos
  · have second : Grid.Held 1000 := Grid.held_of_le (by decide)
    rw [length, Double.literal_eq_whole 1000, Double.whole_le_whole second held]
    omega

/-- A cron expression is accepted with firings that are at least a second apart. -/
theorem positive_of_ofCron {now : Int} {expression : String} {schedule : Schedule}
    (accepted : ofCron now expression = .ok schedule) : schedule.Positive := by
  unfold ofCron at accepted
  cases reads : readCron Cron.reader now expression with
  | error fault =>
    rw [reads] at accepted
    cases accepted
  | ok found =>
    rw [reads] at accepted
    cases accepted
    obtain ⟨finite, positive, second⟩ := positive_of_readCron Cron.lawful_reader reads
    refine ⟨finite, positive, ?_, ?_⟩
    · rintro _ _ ⟨⟩
    · rintro _ _ _ ⟨⟩
      exact second

/-- A setting is accepted with a positive period only, whatever it is and whenever it is read. -/
theorem positive_of_ofSetting {now : Int} {setting : IntervalSetting} {schedule : Schedule}
    (accepted : ofSetting now setting = .ok schedule) : schedule.Positive := by
  have fixed : (setting.interval.mapError .interval).bind ofInterval = .ok schedule →
      schedule.Positive := by
    intro accepted
    cases read : setting.interval with
    | error e =>
      rw [read] at accepted
      cases accepted
    | ok length =>
      rw [read] at accepted
      exact positive_of_ofInterval accepted
  unfold ofSetting at accepted
  cases setting with
  | seconds value => exact fixed accepted
  | text expression =>
    dsimp only at accepted
    split at accepted
    · exact positive_of_ofCron accepted
    · exact fixed accepted

/-- The schedule of debugging has a positive period. -/
theorem positive_debug : debug.Positive := by
  have period : (Interval.ofDuration (.ofWholeSeconds 5)).duration = .ok (.ofWholeSeconds 5) := by
    decide +kernel
  have accepted : ofInterval (Interval.ofDuration (.ofWholeSeconds 5)) = .ok debug := by
    unfold ofInterval
    rw [period]
    exact if_neg (by decide)
  exact positive_of_ofInterval accepted

end Schedule

namespace Timer

/-- A timer with a fixed period has one to wait for. -/
def Waits : Timer → Prop
  | ticking ticker => 0 < ticker.period.nanoseconds
  | _ => True

/-- The timer of a schedule with a positive period waits. -/
theorem waits_start {schedule : Schedule} (positive : schedule.Positive) (moment : Moment) :
    (start schedule moment).Waits := by
  cases schedule with
  | every length period => exact positive.period length period rfl
  | cron expression fires length => trivial

/-- A timer keeps its period. -/
theorem waits_advance {timer : Timer} (waits : timer.Waits) : timer.advance.Waits := by
  cases timer with
  | ticking ticker => exact waits
  | exhausted => trivial
  | firing fires start second =>
    unfold advance
    dsimp only
    split <;> trivial

/-- However often it was due, the timer of a schedule with a positive period waits. -/
theorem waits_iterate {schedule : Schedule} (positive : schedule.Positive) (moment : Moment)
    (dues : Nat) : (advance^[dues] (start schedule moment)).Waits := by
  induction dues with
  | zero => exact waits_start positive moment
  | succ dues ih =>
    rw [Function.iterate_succ_apply']
    exact waits_advance ih

end Timer

namespace Alert

/-- The repeater of the reactor has a period. -/
theorem waits_of_readRepeatPeriod {options : Options} {period : Duration}
    (accepted : Reactor.readRepeatPeriod options = .ok period) : 0 < period.nanoseconds := by
  unfold Reactor.readRepeatPeriod at accepted
  split at accepted
  · cases accepted
  · split at accepted
    · cases accepted
    · cases accepted
      exact Nat.pos_of_ne_zero ‹_›

/-- Every setting that is accepted as a schedule, at any time, has a positive period. So an alert
that is compiled divides its history size by a finite interval above zero, its monitor always has a
timer that waits, also while debugging, and so has the repeater. For a cron expression this needs
nothing but firings that come one after the other, in whole seconds that have a date, whatever reads
the expression and tells its firings. -/
theorem positive_of_accepted (now : Int) :
    (∀ setting schedule, Schedule.ofSetting now setting = .ok schedule → schedule.Positive) ∧
      (∀ config options alert, compile now config options = .ok alert →
        alert.schedule.Positive ∧
        (∃ kept, (config.historySize.getD options.historySize).interval = .ok kept ∧
          alert.interval.millis.le 0 = false ∧
          alert.historySize = max (kept.millis / alert.interval.millis).ceilWord 1) ∧
        ∀ source debug moment dues,
          (Timer.advance^[dues]
            (.start (Monitor.make alert source debug).schedule moment)).Waits) ∧
      (∀ options period, Reactor.readRepeatPeriod options = .ok period → 0 < period.nanoseconds) ∧
      ∀ (C : Type) (reader : CronReader C), reader.Lawful → ∀ expression fires period,
        Schedule.readCron reader now expression = .ok (fires, period) →
          period.millis.isFinite = true ∧ (0 : Double).lt period.millis = true ∧
            (1000 : Double).le period.millis = true := by
  refine ⟨fun _ _ => Schedule.positive_of_ofSetting, ?_, fun _ _ => waits_of_readRepeatPeriod,
    fun _ _ lawful _ _ _ => Schedule.positive_of_readCron lawful⟩
  intro config options alert compiled
  obtain ⟨scheduled, kept, read, size⟩ := schedule_of_compile compiled
  have positive := Schedule.positive_of_ofSetting scheduled
  have above : alert.interval.millis.le 0 = false := Double.le_eq_false_of_lt positive.positive
  refine ⟨positive, ⟨kept, read, above, ?_⟩, ?_⟩
  · rw [size, History.capacityFor, above, if_neg Bool.false_ne_true]
  · intro source debug moment dues
    apply Timer.waits_iterate
    cases debug with
    | true => exact Schedule.positive_debug
    | false => exact positive

/-- A reader for which every expression fires at two seconds only, for examples. -/
def twoFirings : CronReader Unit where
  read _ := some ()
  next _ after := [100, 107].find? fun time => after < (time : Int)

/-- Its firings come one after the other. -/
theorem lawful_twoFirings : twoFirings.Lawful where
  later _ found := by simpa using List.find?_some found
  dated _ found := by
    have listed := List.mem_of_find?_eq_some found
    simp only [List.mem_cons, List.not_mem_nil, or_false] at listed
    omega

/-- A cron expression that fires every five minutes, half a millisecond as a number of seconds, the
repeater of the options as they are, and an expression with two firings only. -/
theorem positive_of_accepted_samples :
    (∃ alert, compile 0 ((AlertConfig.make "disk" "*.disk" ["warning: > 80"]).withInterval
        "*/5 * * * *") .default = .ok alert ∧ alert.schedule.Positive ∧
          alert.interval.millis.le 0 = false) ∧
      (∃ schedule, Schedule.ofSetting 0 (.seconds (.ofDecimal false ⟨5, -4⟩)) = .ok schedule ∧
        schedule.Positive) ∧
      (∃ period, Reactor.readRepeatPeriod .default = .ok period ∧ 0 < period.nanoseconds) ∧
      ∃ period, Schedule.readCron twoFirings 0 "* * * * *" = .ok ((), period) ∧
        (1000 : Double).le period.millis = true := by
  obtain ⟨settings, alerts, repeater, crons⟩ := positive_of_accepted 0
  refine ⟨?_, ?_, ?_, ?_⟩
  · have compiles : (compile 0 ((AlertConfig.make "disk" "*.disk" ["warning: > 80"]).withInterval
        "*/5 * * * *") .default).isOk = true := by decide +kernel
    obtain ⟨alert, compiled⟩ := exists_eq_ok compiles
    obtain ⟨positive, ⟨kept, read, above, size⟩, waits⟩ := alerts _ _ alert compiled
    exact ⟨alert, compiled, positive, above⟩
  · have accepts : (Schedule.ofSetting 0 (.seconds (.ofDecimal false ⟨5, -4⟩))).isOk = true := by
      decide +kernel
    obtain ⟨schedule, accepted⟩ := exists_eq_ok accepts
    exact ⟨schedule, accepted, settings _ schedule accepted⟩
  · have reads : (Reactor.readRepeatPeriod .default).isOk = true := by decide +kernel
    obtain ⟨period, read⟩ := exists_eq_ok reads
    exact ⟨period, read, repeater _ period read⟩
  · have reads : (Schedule.readCron twoFirings 0 "* * * * *").isOk = true := by decide +kernel
    obtain ⟨⟨⟨⟩, period⟩, read⟩ := exists_eq_ok reads
    exact ⟨period, read, (crons Unit twoFirings lawful_twoFirings _ _ _ read).2.2⟩

end Alert

end Vigil
