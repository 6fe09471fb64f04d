import Mathlib.Algebra.Group.Nat.Defs
import Vigil.Cron.Reading

/-!
# Bounds on firings

An expression that is read has values of its parts only, and so all of its firings lie before the
year 2101. Their seconds are far from any number that could not be held exactly.
-/

namespace Vigil

namespace Calendar

/-- A month has at most thirty-one days. -/
theorem daysInMonth_le (year month : Nat) : daysInMonth year month ≤ 31 := by
  unfold daysInMonth
  repeat' split
  all_goals omega

/-- The months before a month have at most thirty-one days each. -/
theorem daysBeforeMonth_le (year month : Nat) : daysBeforeMonth year month ≤ 31 * (month - 1) := by
  unfold daysBeforeMonth
  generalize month - 1 = count
  induction count with
  | zero => exact Nat.le_refl _
  | succ count ih =>
    rw [List.range_succ, List.foldl_append]
    have next := daysInMonth_le year (count + 1)
    simp only [List.foldl_cons, List.foldl_nil]
    omega

/-- The days up to the year 2101 are fewer than fifty thousand. -/
theorem dayNumber_lt {year month day : Nat} (years : year ≤ 2100) (months : month ≤ 12)
    (days : day ≤ 31) : dayNumber year month day < 49000 := by
  have before := daysBeforeMonth_le year month
  have leaps : leapsBefore year ≤ 530 := by
    unfold leapsBefore
    omega
  have start : yearStart year ≤ 365 * 130 + 530 := by
    unfold yearStart epochYear
    omega
  unfold dayNumber
  omega

end Calendar

namespace Cron

/-- No value of an expression lies above the greatest one of its part. -/
structure Bounded (cron : Cron) : Prop where
  seconds : ∀ value ∈ cron.seconds, value ≤ 59
  minutes : ∀ value ∈ cron.minutes, value ≤ 59
  hours : ∀ value ∈ cron.hours, value ≤ 23
  days : ∀ value ∈ cron.days, value ≤ 31
  months : ∀ value ∈ cron.months, value ≤ 12
  years : ∀ value ∈ cron.years, value ≤ 2100

/-- All values of a part lie below its greatest one, or are it. -/
theorem le_of_mem_all {part : Part} {value : Nat} (member : value ∈ part.all) :
    value ≤ part.greatest := by
  obtain ⟨-, below⟩ := List.mem_range'_1.1 member
  have ordered : part.least ≤ part.greatest := by cases part <;> decide
  omega

/-- The set of a part has values of the part only. -/
theorem le_of_readPart {part : Part} {text rest : List Char} {values : List Nat}
    (reads : readPart part text = some (values, rest)) : ∀ value ∈ values, value ≤ part.greatest := by
  obtain ⟨⟨items, more⟩, -, taken⟩ := Option.bind_eq_some_iff.1 reads
  obtain ⟨found, set, same⟩ := Option.bind_eq_some_iff.1 taken
  cases same
  obtain ⟨lists, -, checked⟩ := Option.bind_eq_some_iff.1 set
  dsimp only at checked
  split at checked
  · cases checked
    intro value member
    exact le_of_mem_all (List.mem_filter.1 member).1
  · cases checked

/-- An expression that is read has values of its parts only. -/
theorem bounded_of_read {text : List Char} {cron : Cron} (reads : read text = some cron) :
    cron.Bounded := by
  unfold read at reads
  simp only [Option.bind_eq_bind, Option.bind_eq_some_iff, Prod.exists] at reads
  obtain ⟨seconds, _, second, minutes, _, minute, hours, _, hour, days, afterDays, day, months,
    afterMonths, month, weekdays, afterWeekdays, -, last⟩ := reads
  have years : ∀ value ∈ ((readPart .year afterWeekdays).getD (Part.year.all, afterWeekdays)).1,
      value ≤ Part.year.greatest := by
    cases year : readPart .year afterWeekdays with
    | none => exact fun value member => le_of_mem_all member
    | some found =>
      obtain ⟨values, rest⟩ := found
      exact le_of_readPart year
  split at last
  · cases last
    exact ⟨le_of_readPart second, le_of_readPart minute, le_of_readPart hour, le_of_readPart day,
      le_of_readPart month, years⟩
  · cases last

variable {cron : Cron}

/-- A time of day lies within the day. -/
theorem firstTime_lt (bounded : cron.Bounded) {bound time : Nat}
    (found : cron.firstTime bound = some time) : time < Calendar.secondsPerDay := by
  obtain ⟨hour, listedHour, found⟩ := List.exists_of_findSome?_eq_some found
  split at found
  · cases found
  · obtain ⟨minute, listedMinute, found⟩ := List.exists_of_findSome?_eq_some found
    split at found
    · cases found
    · obtain ⟨second, here, rfl⟩ := Option.map_eq_some_iff.1 found
      have hours := bounded.hours hour listedHour
      have minutes := bounded.minutes minute listedMinute
      have seconds := bounded.seconds second (List.mem_of_find?_eq_some here)
      unfold Calendar.secondsPerDay
      omega

/-- A firing on a day lies within the day. -/
theorem firstOnDay_lt (bounded : cron.Bounded) {bound year month day time : Nat}
    (found : cron.firstOnDay bound year month day = some time) :
    time < (Calendar.dayNumber year month day + 1) * Calendar.secondsPerDay := by
  unfold firstOnDay at found
  simp only at found
  split at found
  · cases found
  · split at found
    · cases found
    · obtain ⟨clock, here, rfl⟩ := Option.map_eq_some_iff.1 found
      have within := firstTime_lt bounded here
      rw [Nat.add_mul, Nat.one_mul]
      omega

/-- Every firing has a second count of less than forty bits. -/
theorem next_lt (bounded : cron.Bounded) {after : Int} {time : Nat}
    (found : cron.next after = some time) : time < 2 ^ 40 := by
  obtain ⟨year, listedYear, found⟩ := List.exists_of_findSome?_eq_some found
  split at found
  · cases found
  · obtain ⟨month, listedMonth, found⟩ := List.exists_of_findSome?_eq_some found
    obtain ⟨day, listedDay, found⟩ := List.exists_of_findSome?_eq_some found
    have within := firstOnDay_lt bounded found
    have days := Calendar.dayNumber_lt (bounded.years year listedYear)
      (bounded.months month listedMonth) (bounded.days day (List.mem_filter.1 listedDay).1)
    unfold Calendar.secondsPerDay at within
    omega

end Cron

end Vigil
