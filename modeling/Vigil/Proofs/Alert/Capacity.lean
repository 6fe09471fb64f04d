import Mathlib.Data.Rat.Floor
import Vigil.Proofs.Alert.Compilation
import Vigil.Proofs.Interval.Length

/-!
# The room of histories

A history has room for as many samples as intervals fit into its window, where a part of one counts
as a whole. The quotient of the two lengths is computed with five roundings, so the room may be one
off where the exact quotient is nearly a whole number, and only there. It is exact for lengths of
whole milliseconds that are written with decimals that binary64 holds.
-/

namespace Vigil

attribute [local irreducible] Grid.quantumBits

namespace Double

/-! ## Whole numbers not below -/

/-- Division that counts a part as a whole yields the least whole number not below the ratio. -/
theorem add_pred_div_eq_ceil (n : ℕ) {d : ℕ} (pos : 0 < d) :
    (n + (d - 1)) / d = ⌈(n / d : ℚ)⌉₊ := by
  have divisor : (0 : ℚ) < d := Nat.cast_pos.2 pos
  refine eq_of_forall_ge_iff fun k => ?_
  rw [Nat.ceil_le, div_le_iff₀' divisor, Nat.div_le_iff_le_mul_add_pred pos,
    Nat.add_le_add_iff_right]
  exact_mod_cast Iff.rfl

/-- The least whole number not below a finite number. -/
theorem ceilWord_finite {m : Magnitude} (short : m.value ≤ 2 ^ 63) :
    (finite false m).ceilWord = ⌈m.value⌉₊ := by
  have word : ⌈m.value⌉₊ ≤ 18446744073709551615 := by
    rw [Nat.ceil_le]
    exact short.trans (by norm_num)
  simp only [ceilWord, Bool.false_eq_true, if_false, add_pred_div_eq_ceil m.count Grid.one_pos]
  exact Nat.min_eq_left word

/-- Rounding the ratio of short numbers does not change the least whole number not below it. The
magnitude is not above a whole number that the ratio passes, so it would be this number. -/
theorem ceilWord_ofRatio {a b : ℕ} (short : a < 2 ^ 53) (pos : 0 < b) (modest : b ≤ 2 ^ 53) :
    (ofRatio false (a * Grid.one) b).ceilWord = ⌈(a / b : ℚ)⌉₊ := by
  have divisor : (0 : ℚ) < b := Nat.cast_pos.2 pos
  obtain ⟨m, count, same⟩ := exists_finite_ofRatio false (Nat.le_of_lt short) pos
  have rounds : Rounds (a / b) (.finite false m) := by
    refine ⟨a * Grid.one, b, pos, ?_, same.symm⟩
    rw [Nat.cast_mul, mul_div_mul_right _ _ (ne_of_gt Grid.one_pos_rat)]
  have few : ⌈(a / b : ℚ)⌉₊ ≤ 2 ^ 53 := by
    rw [Nat.ceil_le, div_le_iff₀ divisor]
    exact_mod_cast Nat.le_trans (Nat.le_of_lt short) (Nat.le_mul_of_pos_right _ pos)
  obtain ⟨top, -, value⟩ := exists_whole (Grid.held_of_le few)
  have upper : m.value ≤ ⌈(a / b : ℚ)⌉₊ := by
    obtain ⟨m', same', le⟩ := rounds.exists_le top (by rw [value]; exact Nat.le_ceil _)
    cases same'
    rwa [value] at le
  have word : m.value ≤ 2 ^ 63 := upper.trans (by exact_mod_cast few.trans (by decide))
  rw [same, ceilWord_finite word]
  refine Nat.le_antisymm (Nat.ceil_le.2 upper) (Nat.le_of_not_lt fun less => ?_)
  have held : Grid.Held ⌈m.value⌉₊ := Grid.held_of_le (Nat.le_trans (Nat.le_of_lt less) few)
  obtain ⟨least, -, value'⟩ := exists_whole held
  have passed : least.value < a / b := by
    rw [value']
    exact Nat.lt_ceil.1 less
  have reached : m.value = ⌈m.value⌉₊ :=
    le_antisymm (Nat.le_ceil _) (value'.symm.trans_le (rounds.ge passed.le))
  have whole : Grid.nearest (a * Grid.one) b = ⌈m.value⌉₊ * Grid.one := by
    rw [← count]
    exact Magnitude.count_eq_of_value reached
  have divides := Grid.eq_mul_of_nearest short pos modest whole
  have equal : (a / b : ℚ) = ⌈m.value⌉₊ := by
    rw [div_eq_iff (ne_of_gt divisor), mul_comm]
    exact_mod_cast divides
  rw [value', equal] at passed
  exact lt_irrefl _ passed

/-! ## Signs -/

/-- The number has a minus sign, be it zero or infinite. -/
def hasMinus : Double → Bool
  | .nan => false
  | .infinite negative => negative
  | .finite negative _ => negative

/-- Rounding keeps the sign. -/
theorem hasMinus_ofRatio (negative : Bool) (num den : ℕ) :
    (ofRatio negative num den).hasMinus = negative := by
  unfold ofRatio
  split <;> rfl

/-- A number with a minus sign keeps it when it is multiplied by a positive number. -/
theorem hasMinus_mul {x : Double} {m : Magnitude} (minus : x.hasMinus = true)
    (pos : 0 < m.count) : (x * .finite false m).hasMinus = true := by
  cases x with
  | nan => cases minus
  | infinite negative =>
    change (mul _ _).hasMinus = true
    simp only [mul, if_neg (Nat.ne_of_gt pos), Bool.bne_false]
    exact minus
  | finite negative n =>
    change (ofRatio (negative != false) _ _).hasMinus = true
    rw [hasMinus_ofRatio, Bool.bne_false]
    exact minus

/-- And when it is divided by one. -/
theorem hasMinus_div {x : Double} {m : Magnitude} (minus : x.hasMinus = true)
    (pos : 0 < m.count) : (x / .finite false m).hasMinus = true := by
  cases x with
  | nan => cases minus
  | infinite negative =>
    change (infinite (negative != false)).hasMinus = true
    rw [Bool.bne_false]
    exact minus
  | finite negative n =>
    change (div _ _).hasMinus = true
    simp only [div, if_neg (Nat.ne_of_gt pos), hasMinus_ofRatio, Bool.bne_false]
    exact minus

/-- No whole number counts below zero. -/
theorem ceilWord_of_hasMinus {x : Double} (minus : x.hasMinus = true) : x.ceilWord = 0 := by
  cases x with
  | nan => cases minus
  | infinite negative => simp only [ceilWord, if_pos (show negative = true from minus)]
  | finite negative m => simp only [ceilWord, if_pos (show negative = true from minus)]

end Double

/-! ## Quotients -/

/-- Two close numbers have the same least whole number not below, except on both sides of a whole
number that both are close to. -/
theorem ceil_of_close {c q : ℚ} (close : |c - q| ≤ |q| / 2 ^ 50) (short : q ≤ 2 ^ 31) :
    max ⌈c⌉₊ 1 = max ⌈q⌉₊ 1 ∨ ∃ n : ℕ, |q - n| ≤ q / 2 ^ 50 ∧
      (max ⌈c⌉₊ 1 = n ∧ max ⌈q⌉₊ 1 = n + 1 ∨ max ⌈q⌉₊ 1 = n ∧ max ⌈c⌉₊ 1 = n + 1) := by
  obtain ⟨above, below⟩ := abs_sub_le_iff.1 close
  rcases le_or_gt q 0 with none | pos
  · rw [abs_of_nonpos none] at above
    have none' : c ≤ 0 := by norm_num at above ⊢; linarith
    rw [Nat.ceil_eq_zero.2 none, Nat.ceil_eq_zero.2 none']
    exact .inl rfl
  · rw [abs_of_pos pos] at above below
    have unit : q / 2 ^ 50 ≤ 1 := by norm_num at short ⊢; linarith
    rcases lt_trichotomy ⌈c⌉₊ ⌈q⌉₊ with less | same | more
    · have reached := Nat.le_ceil c
      have passed := Nat.lt_ceil.1 less
      have next : ⌈q⌉₊ ≤ ⌈c⌉₊ + 1 := by
        rw [Nat.ceil_le]
        push_cast
        linarith
      by_cases first : ⌈c⌉₊ = 0
      · left
        omega
      · refine .inr ⟨⌈c⌉₊, ?_, .inl (by omega)⟩
        rw [abs_of_nonneg (by linarith)]
        linarith
    · rw [same]
      exact .inl rfl
    · have reached := Nat.le_ceil q
      have passed := Nat.lt_ceil.1 more
      have next : ⌈c⌉₊ ≤ ⌈q⌉₊ + 1 := by
        rw [Nat.ceil_le]
        push_cast
        linarith
      have first : 0 < ⌈q⌉₊ := Nat.ceil_pos.2 pos
      refine .inr ⟨⌈q⌉₊, ?_, .inr (by omega)⟩
      rw [abs_of_nonpos (by linarith)]
      linarith

namespace History

/-- The room for a window at a positive period is decided by their quotient. -/
theorem capacityFor_of_pos (window : Double) {n : Magnitude} (pos : 0 < n.count) :
    capacityFor window (.finite false n) = max (window / .finite false n).ceilWord 1 := by
  have above : (Double.finite false n).le 0 = false :=
    Double.le_eq_false_of_lt ((Double.zero_lt_finite n).2 pos)
  rw [capacityFor, above, if_neg Bool.false_ne_true]

/-- A window that is not longer than its period has room for one sample. -/
theorem capacityFor_of_le {m n : Magnitude} (pos : 0 < n.value) (le : m.value ≤ n.value) :
    capacityFor (.finite false m) (.finite false n) = 1 := by
  have less : m.value / n.value ≤ 1 / 2 ^ 0 := by
    rw [pow_zero, div_one]
    exact (div_le_one pos).2 le
  obtain ⟨c, computed, one⟩ := (Double.rounds_div m pos).exists_le_tiny (by decide) less
  rw [pow_zero, div_one] at one
  rw [capacityFor_of_pos _ (Magnitude.value_pos_iff.1 pos), computed,
    Double.ceilWord_finite (one.trans (by norm_num))]
  exact max_eq_right (Nat.ceil_le.2 (one.trans_eq Nat.cast_one.symm))

/-- A window with a minus sign has room for one sample. -/
theorem capacityFor_of_negative {window : Spelling} (minus : window.negative = true)
    {n : Magnitude} (pos : 0 < n.count) {period : ℚ} (nonneg : 0 ≤ period) :
    capacityFor (Interval.millis ⟨window.value, window.unit⟩) (.finite false n) =
      max ⌈window.length / period⌉₊ 1 := by
  obtain ⟨width, held, value⟩ := window.unit.exists_width
  have unit : 0 < width.count := by
    rw [← Magnitude.value_pos_iff, value]
    exact zero_lt_one.trans_le window.unit.one_le_millis
  have decimal : window.value.hasMinus = true := by
    rw [Spelling.value, Double.ofDecimal_eq_ofRatio, Double.hasMinus_ofRatio]
    exact minus
  have length : (Interval.millis ⟨window.value, window.unit⟩).hasMinus = true := by
    rw [Interval.millis, held]
    exact Double.hasMinus_mul decimal unit
  have below : window.length / period ≤ 0 :=
    div_nonpos_of_nonpos_of_nonneg (Spelling.length_nonpos minus) nonneg
  rw [capacityFor_of_pos _ pos, Double.ceilWord_of_hasMinus (Double.hasMinus_div length pos),
    Nat.ceil_eq_zero.2 below]

/-- The room is computed from a number close to the quotient of two lengths where the lengths that
are divided are close to them, and neither is tiny. -/
theorem exists_capacityFor_of_near {m n : Magnitude} {length period : ℚ}
    (first : Near 2 m.value length) (second : Near 2 n.value period)
    (large : 1 / 2 ^ 100 < length) (pos : 0 < period) (divisor : 0 < n.value)
    (high : n.value < 2 ^ 75) (short : length / period ≤ 2 ^ 31) :
    ∃ c : ℚ, |c - length / period| ≤ length / period / 2 ^ 50 ∧
      capacityFor (.finite false m) (.finite false n) = max ⌈c⌉₊ 1 := by
  have nonneg : 0 ≤ length := (by positivity : (0 : ℚ) ≤ 1 / 2 ^ 100).trans large.le
  have quotient : 0 ≤ length / period := div_nonneg nonneg pos.le
  have ratio := first.div second m.value_nonneg nonneg divisor pos
  have above := ratio.le_two_mul (by decide) (div_nonneg m.value_nonneg divisor.le)
  have halved := first.symm.le_two_mul (by decide) nonneg
  have low : 1 / 2 ^ 200 ≤ m.value / n.value := by
    rw [le_div_iff₀ divisor]
    norm_num at large high halved ⊢
    linarith
  have bounded : m.value / n.value ≤ 2 ^ 200 := by
    norm_num at short ⊢
    linarith
  obtain ⟨c, computed, rounded⟩ := (Double.rounds_div m divisor).exists_near low bounded
  have total := rounded.trans ratio
  have most := total.le_two_mul (by decide) c.value_nonneg
  have word : c.value ≤ 2 ^ 63 := by
    norm_num at short ⊢
    linarith
  refine ⟨c.value, total.abs_sub_le c.value_nonneg quotient, ?_⟩
  rw [capacityFor_of_pos _ (Magnitude.value_pos_iff.1 divisor), computed,
    Double.ceilWord_finite word]

/-- The room for a window at a period is computed from a number close to the exact quotient. -/
theorem exists_capacityFor {window period : Spelling} {n : Magnitude}
    (computed : Interval.millis ⟨period.value, period.unit⟩ = .finite false n)
    (low : 1 / 2 ^ 23 < n.value) (high : n.value < 2 ^ 75)
    (short : window.length / period.length ≤ 2 ^ 31) :
    ∃ c : ℚ, |c - window.length / period.length| ≤ |window.length / period.length| / 2 ^ 50 ∧
      capacityFor (Interval.millis ⟨window.value, window.unit⟩)
        (Interval.millis ⟨period.value, period.unit⟩) = max ⌈c⌉₊ 1 := by
  obtain ⟨pos, near⟩ := Interval.near_of_moderate computed low high
  have divisor : 0 < n.value := lt_trans (by positivity) low
  have least := near.le_two_mul (by decide) divisor.le
  have most := near.symm.le_two_mul (by decide) pos.le
  have same : ∀ q : ℚ, |q - q| ≤ |q| / 2 ^ 50 := fun q => by
    rw [sub_self, abs_zero]
    positivity
  rw [computed]
  cases sign : window.negative with
  | true =>
    exact ⟨_, same _, capacityFor_of_negative sign (Magnitude.value_pos_iff.1 divisor) pos.le⟩
  | false =>
    have moderate : window.length ≤ 2 ^ 112 := by
      rw [div_le_iff₀ pos] at short
      norm_num at short high ⊢
      linarith
    obtain ⟨m, length, ⟨tiny, tiny'⟩ | ⟨large, close⟩⟩ := Interval.exists_millis sign moderate
    · have less : m.value ≤ n.value := by
        norm_num at tiny' low
        linarith
      have exact : window.length / period.length ≤ (1 : ℕ) := by
        rw [Nat.cast_one, div_le_one pos]
        norm_num at tiny low
        linarith
      refine ⟨_, same _, ?_⟩
      rw [length, capacityFor_of_le divisor less, max_eq_right (Nat.ceil_le.2 exact)]
    · have nonneg : 0 ≤ window.length := (by positivity : (0 : ℚ) ≤ 1 / 2 ^ 100).trans large.le
      rw [length, abs_of_nonneg (div_nonneg nonneg pos.le)]
      exact exists_capacityFor_of_near close near large pos divisor high short

/-- The room for a window of whole milliseconds at a period of whole milliseconds is exact where
their decimals are. -/
theorem capacityFor_of_exact {window period : Spelling} {n : Magnitude}
    (computed : Interval.millis ⟨period.value, period.unit⟩ = .finite false n)
    (low : 1 / 2 ^ 23 < n.value) (exact : window.Exact) (exact' : period.Exact) {a b : ℕ}
    (length : window.length = a) (length' : period.length = b)
    (short : a < 2 ^ 53) (short' : b < 2 ^ 53) :
    capacityFor (Interval.millis ⟨window.value, window.unit⟩)
      (Interval.millis ⟨period.value, period.unit⟩) = max ⌈window.length / period.length⌉₊ 1 := by
  have divisor : 0 < n.value := lt_trans (by positivity) low
  have quantum : 0 < n.count := Magnitude.value_pos_iff.1 divisor
  obtain ⟨unsigned, -⟩ := Interval.exists_value_of_millis computed
  have second := Interval.millis_of_exact unsigned exact' length' (Nat.le_of_lt short')
  cases sign : window.negative with
  | true =>
    rw [computed, length']
    exact capacityFor_of_negative sign quantum (Nat.cast_nonneg b)
  | false =>
    have first := Interval.millis_of_exact sign exact length (Nat.le_of_lt short)
    have held := Grid.held_of_le (Nat.le_of_lt short)
    have held' := Grid.held_of_le (Nat.le_of_lt short')
    have pos : 0 < b := by
      obtain ⟨m, whole, value⟩ := Double.exists_whole held'
      rw [computed, whole] at second
      cases second
      rw [value] at divisor
      exact_mod_cast divisor
    have quotient := Double.whole_div_whole false false held held' pos
    rw [← second, computed, bne_self_eq_false] at quotient
    rw [first, computed, capacityFor_of_pos _ quantum, quotient,
      Double.ceilWord_ofRatio short pos (Nat.le_of_lt short'), length, length']

end History

namespace Schedule

/-- A text that is accepted as a fixed schedule is an interval that a timer can wait. -/
theorem exists_interval_of_fixed {now : Int} {text : String} {schedule : Schedule}
    (accepted : ofSetting now (.text text) = .ok schedule) (fixed : schedule.isCron = false) :
    ∃ d, Interval.read text = .ok schedule.interval ∧ schedule.interval.duration = .ok d ∧
      d.nanoseconds ≠ 0 := by
  unfold ofSetting at accepted
  dsimp only at accepted
  split at accepted
  · unfold ofCron at accepted
    cases reads : readCron Cron.reader now text with
    | error fault =>
      rw [reads] at accepted
      cases accepted
    | ok found =>
      rw [reads] at accepted
      cases accepted
      cases fixed
  · cases read : Interval.read text with
    | error e =>
      rw [IntervalSetting.interval, read] at accepted
      cases accepted
    | ok length =>
      rw [IntervalSetting.interval, read] at accepted
      change ofInterval length = .ok schedule at accepted
      unfold ofInterval at accepted
      split at accepted
      · cases accepted
      · split at accepted
        · cases accepted
        · cases accepted
          exact ⟨_, rfl, by assumption, by assumption⟩

end Schedule

namespace Alert

/-- Where the history size and the interval in force of an alert with a fixed schedule are spelled
as decimals, and the exact quotient of their lengths is at most `2 ^ 31`, the room of its histories
is the least whole number not below the quotient, and one at least; but when the quotient is within a
`2 ^ 50`th part of a whole number, it may be this number where the next one is right, or the next one
where this is right. This cannot happen to lengths of whole milliseconds with decimals that binary64
holds. -/
theorem historySize_of_spelled {now : Int} {config : AlertConfig} {options : Options} {alert : Alert}
    {size interval : String} {window period : Spelling}
    (compiled : compile now config options = .ok alert)
    (sized : config.historySize.getD options.historySize = .text size) (window' : window.Spells size)
    (polled : config.interval.getD options.interval = .text interval)
    (period' : period.Spells interval) (fixed : alert.schedule.isCron = false)
    (short : window.length / period.length ≤ 2 ^ 31) :
    let quotient := window.length / period.length
    let exact := max ⌈quotient⌉₊ 1
    (alert.historySize = exact ∨ ∃ n : ℕ, |quotient - n| ≤ quotient / 2 ^ 50 ∧
        (alert.historySize = n ∧ exact = n + 1 ∨ exact = n ∧ alert.historySize = n + 1)) ∧
      (window.Exact → period.Exact → ∀ a b : ℕ, window.length = a → period.length = b →
        a < 2 ^ 53 → b < 2 ^ 53 → alert.historySize = exact) := by
  intro quotient exact
  obtain ⟨scheduled, kept, read, room⟩ := schedule_of_compile compiled
  rw [sized] at read
  rw [polled] at scheduled
  obtain ⟨d, read', timed, some⟩ := Schedule.exists_interval_of_fixed scheduled fixed
  obtain rfl := Interval.eq_of_spells read window'
  have same : alert.interval = ⟨period.value, period.unit⟩ := Interval.eq_of_spells read' period'
  obtain ⟨n, computed, low, high⟩ := Interval.exists_millis_of_duration timed some
  have computed' : Interval.millis ⟨period.value, period.unit⟩ = .finite false n := by
    rwa [← same]
  rw [room, same]
  constructor
  · obtain ⟨c, close, capacity⟩ := History.exists_capacityFor computed' low high short
    rw [capacity]
    exact ceil_of_close close short
  · intro held held' a b length length' few few'
    exact History.capacityFor_of_exact computed' low held held' length length' few few'

/-- An alert that is polled every minute, with a history of its own. -/
def everyMinute (size : String) : AlertConfig :=
  ((AlertConfig.make "cpu" "*.cpu" ["critical: > 100"]).withInterval "1minute").withHistorySize size

/-- One minute, spelled with the long name. -/
def oneMinute : Spelling := ⟨false, ['1'], none, .minute, true⟩

/-- A number of hours with one place, spelled with the long name. -/
def oneHourAnd (tenths : Char) : Spelling := ⟨false, ['1'], some [tenths], .hour, true⟩

/-- It is spelled so. -/
theorem spells_oneMinute : oneMinute.Spells "1minute" where
  nonempty := List.cons_ne_nil _ _
  ascii := List.all_eq_true.1 (by decide)
  chars := by decide +kernel

/-- With a digit as tenths, the number of hours is spelled as one. -/
theorem proper_oneHourAnd {tenths : Char} (digit : tenths.isDigit = true) :
    (oneHourAnd tenths).Proper where
  nonempty := List.cons_ne_nil _ _
  ascii := List.forall_mem_cons.2 ⟨rfl, List.forall_mem_singleton.2 digit⟩

/-- One minute in milliseconds. -/
theorem length_oneMinute : oneMinute.length = (60000 : ℕ) := by
  have decimal : oneMinute.decimal.value = 1 := by
    have digits : oneMinute.decimal = ⟨1, 0⟩ := by decide
    rw [digits, Decimal.value, zpow_zero]
    norm_num
  rw [Spelling.length, Spelling.magnitude, if_neg (by decide), decimal, one_mul]
  rfl

/-- An hour and some tenths as a number of hours. -/
theorem magnitude_oneHourAnd (tenths : Char) :
    (oneHourAnd tenths).magnitude = (10 + Decimal.digitValue tenths : ℕ) / 10 := by
  have digits : (oneHourAnd tenths).decimal = ⟨10 + Decimal.digitValue tenths, -1⟩ := rfl
  have unsigned : ¬(oneHourAnd tenths).negative = true := Bool.false_ne_true
  rw [Spelling.magnitude, if_neg unsigned, digits, Decimal.value, zpow_neg, zpow_one,
    div_eq_mul_inv]

/-- And in milliseconds. -/
theorem length_oneHourAnd (tenths : Char) :
    (oneHourAnd tenths).length = ((10 + Decimal.digitValue tenths) * 360000 : ℕ) := by
  have unit : ((oneHourAnd tenths).unit.millis : ℚ) = 3600000 := by norm_num [oneHourAnd, TimeUnit.millis]
  rw [Spelling.length, magnitude_oneHourAnd, unit]
  push_cast
  ring

/-- An hour and a half is held exactly, and it is ninety minutes. -/
theorem historySize_of_ninety_minutes :
    ∃ alert, compile 0 (everyMinute "1.5hour") .default = .ok alert ∧ alert.historySize = 90 := by
  have accepted : (compile 0 (everyMinute "1.5hour") .default).isOk = true := by decide +kernel
  have polled : (compile 0 (everyMinute "1.5hour") .default).map (·.schedule.isCron) = .ok false := by
    decide +kernel
  obtain ⟨alert, compiled⟩ := exists_eq_ok accepted
  rw [compiled] at polled
  have fixed : alert.schedule.isCron = false := Except.ok.inj polled
  have window : (oneHourAnd '5').Spells "1.5hour" :=
    ⟨proper_oneHourAnd (by decide), by decide +kernel⟩
  have length : (oneHourAnd '5').length = (5400000 : ℕ) := length_oneHourAnd '5'
  have quotient : (oneHourAnd '5').length / oneMinute.length = (90 : ℕ) := by
    rw [length, length_oneMinute]
    norm_num
  have held : (oneHourAnd '5').Exact := by
    obtain ⟨m, value⟩ := Magnitude.exists_value_eq (n := 3) (k := 1) (by decide) (by decide)
    have digit : Decimal.digitValue '5' = 5 := by decide
    refine ⟨m, ?_⟩
    rw [value, magnitude_oneHourAnd, digit]
    norm_num
  have held' : oneMinute.Exact := by
    obtain ⟨m, value⟩ := Magnitude.exists_value_eq (n := 1) (k := 0) (by decide) (by decide)
    refine ⟨m, ?_⟩
    have unit : (oneMinute.unit.millis : ℚ) = 60000 := by norm_num [oneMinute, TimeUnit.millis]
    have length := length_oneMinute
    rw [Spelling.length, unit] at length
    rw [value]
    push_cast at length ⊢
    linarith
  have room := (historySize_of_spelled compiled rfl window rfl spells_oneMinute fixed
    (by rw [quotient]; norm_num)).2 held held' _ _ length length_oneMinute (by decide) (by decide)
  refine ⟨alert, compiled, ?_⟩
  rw [room, quotient, Nat.ceil_natCast]
  rfl

/-- An hour and a tenth is sixty-six minutes, but the history has room for sixty-seven samples. -/
theorem historySize_exceeds_whole_multiple :
    ∃ alert, compile 0 (everyMinute "1.1hour") .default = .ok alert ∧
      alert.schedule.isCron = false ∧ (oneHourAnd '1').Spells "1.1hour" ∧
      oneMinute.Spells "1minute" ∧ (oneHourAnd '1').length / oneMinute.length = 66 ∧
      alert.historySize = 67 := by
  have accepted : (compile 0 (everyMinute "1.1hour") .default).isOk = true := by decide +kernel
  have settled : (compile 0 (everyMinute "1.1hour") .default).map (fun alert =>
      (alert.schedule.isCron, alert.historySize)) = .ok (false, 67) := by decide +kernel
  obtain ⟨alert, compiled⟩ := exists_eq_ok accepted
  rw [compiled] at settled
  obtain ⟨fixed, room⟩ := Prod.ext_iff.1 (Except.ok.inj settled)
  refine ⟨alert, compiled, fixed, ⟨proper_oneHourAnd (by decide), by decide +kernel⟩,
    spells_oneMinute, ?_, room⟩
  have length : (oneHourAnd '1').length = (3960000 : ℕ) := length_oneHourAnd '1'
  rw [length, length_oneMinute]
  norm_num

end Alert

end Vigil
