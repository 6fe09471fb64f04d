/-!
# Calendar

Days are counted from the first of January 1970, a Thursday. Months and days of
a month begin with one, and so do the days of a week, with Sunday.
-/

namespace Vigil.Calendar

/-- The first year of the count of days. -/
def epochYear : Nat := 1970

/-- The year has a twenty-ninth of February. -/
def isLeap (year : Nat) : Bool := year % 4 = 0 && (year % 100 != 0 || year % 400 = 0)

/-- The number of days of a month. -/
def daysInMonth (year month : Nat) : Nat :=
  if month = 2 then if isLeap year then 29 else 28
  else if [4, 6, 9, 11].contains month then 30
  else 31

/-- The number of leap years before a year. -/
def leapsBefore (year : Nat) : Nat := (year - 1) / 4 - (year - 1) / 100 + (year - 1) / 400

/-- The count of the first day of a year. -/
def yearStart (year : Nat) : Nat :=
  365 * (year - epochYear) + (leapsBefore year - leapsBefore epochYear)

/-- The number of days of a year before a month. -/
def daysBeforeMonth (year month : Nat) : Nat :=
  (List.range (month - 1)).foldl (fun days m => days + daysInMonth year (m + 1)) 0

/-- The count of a day. -/
def dayNumber (year month day : Nat) : Nat :=
  yearStart year + daysBeforeMonth year month + (day - 1)

/-- The day of the week of a day. -/
def weekday (number : Nat) : Nat := (number + 4) % 7 + 1

/-- Seconds in a day. -/
def secondsPerDay : Nat := 86400

/-- A day has the weekday after that of the day before it. -/
theorem weekday_succ (number : Nat) : weekday (number + 1) = weekday number % 7 + 1 := by
  unfold weekday
  omega

example : weekday (dayNumber epochYear 1 1) = 5 := by decide

/-- The first day of a month comes after the last day of the month before it. -/
theorem dayNumber_succ_month (year : Nat) {month : Nat} (pos : 0 < month) :
    dayNumber year (month + 1) 1 = dayNumber year month (daysInMonth year month) + 1 := by
  obtain ⟨before, rfl⟩ : ∃ before, month = before + 1 := ⟨month - 1, by omega⟩
  have days : 0 < daysInMonth year (before + 1) := by
    unfold daysInMonth
    repeat' split
    all_goals decide
  have months : daysBeforeMonth year (before + 1 + 1) =
      daysBeforeMonth year (before + 1) + daysInMonth year (before + 1) := by
    simp [daysBeforeMonth, List.range_succ]
  unfold dayNumber
  omega

/-- A leap year is one more for the years after it. -/
theorem leapsBefore_succ {year : Nat} (pos : 0 < year) :
    leapsBefore (year + 1) = leapsBefore year + if isLeap year then 1 else 0 := by
  obtain ⟨before, rfl⟩ : ∃ before, year = before + 1 := ⟨year - 1, by omega⟩
  have fewer : before / 100 ≤ before / 4 := Nat.div_le_div_left (by decide) (by decide)
  have leap : isLeap (before + 1) = true ↔
      4 ∣ before + 1 ∧ (¬ 100 ∣ before + 1 ∨ 400 ∣ before + 1) := by
    simp [isLeap, Nat.dvd_iff_mod_eq_zero]
  have quarter : 100 ∣ before + 1 → 4 ∣ before + 1 := Nat.dvd_trans (by decide)
  have century : 400 ∣ before + 1 → 100 ∣ before + 1 := Nat.dvd_trans (by decide)
  simp only [leapsBefore, leap, Nat.add_sub_cancel, Nat.succ_div]
  generalize before / 4 = fours, before / 100 = hundreds at fewer ⊢
  by_cases hundred : 100 ∣ before + 1
  · rw [if_pos (quarter hundred), if_pos hundred]
    simp only [quarter hundred, hundred, not_true_eq_false, false_or, true_and]
    omega
  · have short : ¬ 400 ∣ before + 1 := mt century hundred
    rw [if_neg hundred, if_neg short]
    simp only [hundred, not_false_eq_true, true_or, and_true]
    omega

/-- Later years have no fewer leap years before them. -/
theorem leapsBefore_mono {year later : Nat} (pos : 0 < year) (order : year ≤ later) :
    leapsBefore year ≤ leapsBefore later := by
  induction order with
  | refl => exact Nat.le_refl _
  | step order ih =>
    rw [leapsBefore_succ (Nat.lt_of_lt_of_le pos order)]
    exact Nat.le_trans ih (Nat.le_add_right _ _)

/-- A year begins as many days after the one before it as that one has. -/
theorem yearStart_succ {year : Nat} (counted : epochYear ≤ year) :
    yearStart (year + 1) = yearStart year + if isLeap year then 366 else 365 := by
  have positive : 0 < year := Nat.lt_of_lt_of_le (by decide) counted
  have earlier : leapsBefore epochYear ≤ leapsBefore year := leapsBefore_mono (by decide) counted
  unfold yearStart
  rw [leapsBefore_succ positive]
  split <;> omega

/-- The first day of a year comes after the last day of the year before it. -/
theorem dayNumber_succ_year {year : Nat} (counted : epochYear ≤ year) :
    dayNumber (year + 1) 1 1 = dayNumber year 12 31 + 1 := by
  have first : daysBeforeMonth (year + 1) 1 = 0 := rfl
  have last : daysBeforeMonth year 12 = if isLeap year then 335 else 334 := by
    cases long : isLeap year <;> simp [daysBeforeMonth, daysInMonth, List.range_succ, long]
  unfold dayNumber
  rw [first, last, yearStart_succ counted]
  split <;> omega

example : dayNumber 2024 2 29 = 19782 := by decide

end Vigil.Calendar
