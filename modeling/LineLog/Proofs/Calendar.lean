import LineLog.Calendar
import Mathlib.Tactic.IntervalCases

/-!
# Days and dates

Day numbers and valid dates correspond to one another, and the day after a date is the next
date of the Gregorian calendar, in all years.  A year is counted from March here, as in the
computation; the leap day is the last one of its year.
-/

namespace LineLog

namespace Calendar

/-! ## Years that begin in March -/

/-- The day of 1 March of a year, counted from that of the year zero. -/
def firstDay (year : Int) : Int :=
  365 * year + year / 4 - year / 100 + year / 400

/-- The days of a year that begins in March. -/
def yearLength (year : Int) : Nat :=
  if isLeap (year + 1) then 366 else 365

theorem isLeap_iff {year : Int} :
    isLeap year = true ↔ year % 4 = 0 ∧ (year % 100 ≠ 0 ∨ year % 400 = 0) := by
  simp [isLeap]

theorem firstDay_succ (year : Int) : firstDay (year + 1) = firstDay year + yearLength year := by
  unfold firstDay yearLength
  split
  · next hleap =>
    rw [isLeap_iff] at hleap
    omega
  · next hcommon =>
    rw [isLeap_iff] at hcommon
    omega

/-- The calendar repeats after a cycle. -/
theorem firstDay_cycle (cycles : Int) (year : Nat) (hyear : year < 400) :
    firstDay (cycles * 400 + year) =
      cycles * cycle + (365 * year + year / 4 - year / 100 : Nat) := by
  unfold firstDay cycle
  omega

/-- A year within a cycle, by its century, its leap period and its place in that, and a day of
that year. -/
structure DayInCycle where
  century : Nat
  period : Nat
  place : Nat
  dayOfYear : Nat
  century_le : century ≤ 3
  period_le : period ≤ 24
  place_le : place ≤ 3
  /-- The last day of a leap year comes at the end of a period, but of a century only if it is
  the last one. -/
  dayOfYear_le : dayOfYear ≤ 364 ∨ dayOfYear = 365 ∧ place = 3 ∧ (period ≤ 23 ∨ century = 3)

namespace DayInCycle

def year (split : DayInCycle) : Nat :=
  100 * split.century + 4 * split.period + split.place

def day (split : DayInCycle) : Nat :=
  36524 * split.century + 1461 * split.period + 365 * split.place + split.dayOfYear

theorem exists_day_eq {day : Nat} (hday : day < 146097) :
    ∃ split : DayInCycle, split.day = day := by
  obtain ⟨century, hcentury⟩ : ∃ century, century = min 3 (day / 36524) := ⟨_, rfl⟩
  obtain ⟨period, hperiod⟩ : ∃ period, period = min 24 ((day - 36524 * century) / 1461) := ⟨_, rfl⟩
  have hinCentury : day - 36524 * century ≤ 36524 ∧ 36524 * century ≤ day ∧
      (day - 36524 * century = 36524 → century = 3) := by
    omega
  have hinPeriod : day - 36524 * century - 1461 * period ≤ 1460 ∧
      1461 * period ≤ day - 36524 * century := by
    omega
  obtain ⟨place, hplace⟩ : ∃ place,
      place = min 3 ((day - 36524 * century - 1461 * period) / 365) := ⟨_, rfl⟩
  refine ⟨⟨century, period, place,
    day - 36524 * century - 1461 * period - 365 * place, ?_, ?_, ?_, ?_⟩, ?_⟩
  · omega
  · omega
  · omega
  · omega
  · simp only [DayInCycle.day]
    omega

/-- Four years have 1460 days and a leap day, except at the end of a century; a day is lost for
every 1460 and won back for every century, so that a year has 365 days for the count. -/
theorem year_eq (split : DayInCycle) :
    (split.day - split.day / 1460 + split.day / 36524 - split.day / 146096) / 365 =
      split.year := by
  obtain ⟨century, period, place, dayOfYear, hcentury, hperiod, hplace, hday⟩ := split
  simp only [day, year]
  generalize hsum : 36524 * century + 1461 * period + 365 * place + dayOfYear = sum
  have hcenturies : sum / 36524 = century + sum / 146096 := by
    have hlow : 36524 * century ≤ sum := by omega
    have hhigh : sum < 36524 * century + 36524 ∨ century = 3 ∧ sum = 146096 := by omega
    clear hsum hday hplace hperiod
    omega
  have hperiods : sum / 1460 = 25 * century + period ∧
        24 * century + period + 365 * place + dayOfYear < 1460 ∨
      sum / 1460 = 25 * century + period + 1 ∧
        1460 ≤ 24 * century + period + 365 * place + dayOfYear := by
    omega
  omega

theorem day_eq (split : DayInCycle) :
    split.day = 365 * split.year + split.year / 4 - split.year / 100 + split.dayOfYear := by
  obtain ⟨century, period, place, dayOfYear, hcentury, hperiod, hplace, hday⟩ := split
  simp only [day, year]
  omega

theorem year_lt (split : DayInCycle) : split.year < 400 := by
  obtain ⟨century, period, place, dayOfYear, hcentury, hperiod, hplace, hday⟩ := split
  simp only [year]
  omega

theorem day_lt (split : DayInCycle) : split.day < 146097 := by
  obtain ⟨century, period, place, dayOfYear, hcentury, hperiod, hplace, hday⟩ := split
  simp only [day]
  omega

theorem dayOfYear_lt (split : DayInCycle) (cycles : Int) :
    split.dayOfYear < yearLength (cycles * 400 + split.year) := by
  obtain ⟨century, period, place, dayOfYear, hcentury, hperiod, hplace, hday⟩ := split
  simp only [yearLength, year, isLeap_iff]
  split <;> omega

/-- Every day of every year has its place in a cycle. -/
theorem exists_year_eq {cycles : Int} {year dayOfYear : Nat} (hyear : year < 400)
    (hday : dayOfYear < yearLength (cycles * 400 + year)) :
    ∃ split : DayInCycle, split.year = year ∧ split.dayOfYear = dayOfYear := by
  simp only [yearLength, isLeap_iff] at hday
  refine ⟨⟨year / 100, year % 100 / 4, year % 4, dayOfYear, ?_, ?_, ?_, ?_⟩, ?_, rfl⟩
  · omega
  · omega
  · omega
  · split at hday <;> omega
  · simp only [DayInCycle.year]
    omega

end DayInCycle

/-! ## Months that are counted from March -/

/-- The date of a day of a month, both counted from zero, in a year that begins in March. -/
def dateFromMarch (year : Int) (month day : Nat) : Date where
  year := year + if month < 10 then 0 else 1
  month := if month < 10 then month + 3 else month - 9
  day := day + 1

/-- The days of a month that is counted from March. -/
def monthLength (year : Int) (month : Nat) : Nat :=
  daysInMonth (dateFromMarch year month 0).year (dateFromMarch year month 0).month

def monthOfDay (day : Nat) : Nat :=
  (5 * day + 2) / 153

theorem daysBeforeMonth_succ (year : Int) {month : Nat} (hmonth : month < 11) :
    daysBeforeMonth (month + 1) = daysBeforeMonth month + monthLength year month := by
  interval_cases month <;> rfl

theorem yearLength_eq (year : Int) :
    yearLength year = daysBeforeMonth 11 + monthLength year 11 := by
  change yearLength year = 337 + if isLeap (year + 1) then 29 else 28
  unfold yearLength
  split <;> rfl

theorem monthOfDay_spec {day : Nat} (hday : day ≤ 365) :
    monthOfDay day < 12 ∧ daysBeforeMonth (monthOfDay day) ≤ day ∧
      day < daysBeforeMonth (monthOfDay day + 1) := by
  simp only [monthOfDay, daysBeforeMonth]
  omega

theorem monthOfDay_eq {month day : Nat} (hfrom : daysBeforeMonth month ≤ day)
    (hto : day < daysBeforeMonth (month + 1)) : monthOfDay day = month := by
  simp only [monthOfDay, daysBeforeMonth] at hfrom hto ⊢
  omega

theorem dayOfDate_dateFromMarch (year : Int) {month : Nat} (hmonth : month < 12) (day : Nat) :
    dayOfDate (dateFromMarch year month day) =
      firstDay year + (daysBeforeMonth month + day) + marchZero := by
  have hyear : year / 400 * cycle + 365 * (year % 400) + year % 400 / 4 - year % 400 / 100 =
      firstDay year := by
    unfold firstDay cycle
    omega
  rw [← hyear]
  by_cases hearly : month < 10
  · have hafter : ¬ month + 3 ≤ 2 := by omega
    simp only [dayOfDate, dateFromMarch, if_pos hearly, if_neg hafter, Nat.add_sub_cancel,
      Int.add_zero]
    omega
  · have hbefore : month - 9 ≤ 2 := by omega
    have hsame : month - 9 + 9 = month := by omega
    simp only [dayOfDate, dateFromMarch, if_neg hearly, if_pos hbefore, hsame,
      Int.add_sub_cancel]
    omega

/-- The date of a day is found in the month that it belongs to. -/
theorem dateInCycle_day (cycles : Int) (split : DayInCycle) :
    dateInCycle cycles split.day =
      dateFromMarch (cycles * 400 + split.year) (monthOfDay split.dayOfYear)
        (split.dayOfYear - daysBeforeMonth (monthOfDay split.dayOfYear)) := by
  have hday : split.day - (365 * split.year + split.year / 4 - split.year / 100) =
      split.dayOfYear := by
    rw [split.day_eq, Nat.add_sub_cancel_left]
  unfold dateInCycle
  rw [split.year_eq]
  dsimp only
  rw [hday]
  rfl

end Calendar

/-! ## Days and dates -/

namespace Date

structure Valid (date : Date) : Prop where
  month_pos : 1 ≤ date.month
  month_le : date.month ≤ 12
  day_pos : 1 ≤ date.day
  day_le : date.day ≤ Calendar.daysInMonth date.year date.month

def next (date : Date) : Date :=
  if date.day < Calendar.daysInMonth date.year date.month then { date with day := date.day + 1 }
  else if date.month < 12 then ⟨date.year, date.month + 1, 1⟩
  else ⟨date.year + 1, 1, 1⟩

end Date

namespace Calendar

theorem valid_dateFromMarch (year : Int) {month day : Nat} (hmonth : month < 12)
    (hday : day < monthLength year month) : (dateFromMarch year month day).Valid where
  month_pos := by
    simp only [dateFromMarch]
    split <;> omega
  month_le := by
    simp only [dateFromMarch]
    split <;> omega
  day_pos := Nat.le_add_left 1 day
  day_le := hday

theorem exists_dateFromMarch {date : Date} (hvalid : date.Valid) :
    ∃ year month day, month < 12 ∧ day < monthLength year month ∧
      dateFromMarch year month day = date := by
  obtain ⟨year, month, day⟩ := date
  obtain ⟨hmonthPos, hmonthLe, hdayPos, hdayLe⟩ := hvalid
  dsimp only at hmonthPos hmonthLe hdayPos hdayLe
  obtain ⟨day, rfl⟩ := Nat.exists_eq_add_of_le' hdayPos
  by_cases hearly : month ≤ 2
  · have hfrom (day : Nat) : dateFromMarch (year - 1) (month + 9) day = ⟨year, month, day + 1⟩ := by
      have hlate : ¬ month + 9 < 10 := by omega
      simp only [dateFromMarch, if_neg hlate, Int.sub_add_cancel, Nat.add_sub_cancel]
    refine ⟨year - 1, month + 9, day, by omega, ?_, hfrom day⟩
    rw [monthLength, hfrom]
    exact hdayLe
  · have hfrom (day : Nat) : dateFromMarch year (month - 3) day = ⟨year, month, day + 1⟩ := by
      have hsame : month - 3 < 10 ∧ month - 3 + 3 = month := by omega
      simp only [dateFromMarch, if_pos hsame.1, hsame.2, Int.add_zero]
    refine ⟨year, month - 3, day, by omega, ?_, hfrom day⟩
    rw [monthLength, hfrom]
    exact hdayLe

/-- The days before a month and those of the month are days of the year. -/
theorem daysBeforeMonth_add_lt {year : Int} {month day : Nat} (hmonth : month < 12)
    (hday : day < monthLength year month) :
    daysBeforeMonth month + day < yearLength year ∧
      daysBeforeMonth month + day < daysBeforeMonth (month + 1) := by
  rcases Nat.lt_or_eq_of_le (Nat.le_of_lt_succ hmonth) with hless | rfl
  · have hnext := daysBeforeMonth_succ year hless
    have hlast : daysBeforeMonth (month + 1) ≤ daysBeforeMonth 11 := by
      simp only [daysBeforeMonth]
      omega
    rw [yearLength_eq]
    omega
  · have hlength := yearLength_eq year
    have hbound : yearLength year ≤ 366 := by
      unfold yearLength
      split <;> decide
    have hnext : daysBeforeMonth (11 + 1) = 367 := rfl
    omega

/-- A day of a year is in the month that it belongs to. -/
theorem sub_daysBeforeMonth_lt {year : Int} {day : Nat} (hday : day < yearLength year) :
    monthOfDay day < 12 ∧ daysBeforeMonth (monthOfDay day) ≤ day ∧
      day - daysBeforeMonth (monthOfDay day) < monthLength year (monthOfDay day) := by
  have hbound : yearLength year ≤ 366 := by
    unfold yearLength
    split <;> decide
  obtain ⟨hmonth, hfrom, hto⟩ := @monthOfDay_spec day (by omega)
  refine ⟨hmonth, hfrom, ?_⟩
  rcases Nat.lt_or_eq_of_le (Nat.le_of_lt_succ hmonth) with hless | hlast
  · have hnext := daysBeforeMonth_succ year hless
    omega
  · have hlength := yearLength_eq year
    rw [hlast] at hfrom ⊢
    omega

theorem exists_dateOfDay_eq (day : Int) :
    ∃ (cycles : Int) (split : DayInCycle),
      dateOfDay day = dateInCycle cycles split.day ∧
        day = cycles * cycle + split.day + marchZero := by
  have hpos : 0 ≤ (day - marchZero) % cycle := Int.emod_nonneg _ (by decide)
  have hlt : (day - marchZero) % cycle < 146097 := Int.emod_lt_of_pos _ (by decide)
  obtain ⟨split, hsplit⟩ := @DayInCycle.exists_day_eq ((day - marchZero) % cycle).toNat (by omega)
  refine ⟨(day - marchZero) / cycle, split, ?_, ?_⟩
  · rw [hsplit]
    rfl
  · rw [hsplit, Int.toNat_of_nonneg hpos, Int.mul_comm, Int.mul_ediv_add_emod,
      Int.sub_add_cancel]

theorem valid_dateOfDay (day : Int) : (dateOfDay day).Valid := by
  obtain ⟨cycles, split, hdate, -⟩ := exists_dateOfDay_eq day
  obtain ⟨hmonth, -, hlt⟩ := sub_daysBeforeMonth_lt (split.dayOfYear_lt cycles)
  rw [hdate, dateInCycle_day]
  exact valid_dateFromMarch _ hmonth hlt

/-- The day of the date of a day is that day. -/
theorem dayOfDate_dateOfDay (day : Int) : dayOfDate (dateOfDay day) = day := by
  obtain ⟨cycles, split, hdate, hday⟩ := exists_dateOfDay_eq day
  obtain ⟨hmonth, hfrom, -⟩ := sub_daysBeforeMonth_lt (split.dayOfYear_lt cycles)
  rw [hdate, dateInCycle_day, dayOfDate_dateFromMarch _ hmonth,
    firstDay_cycle cycles split.year split.year_lt, hday, split.day_eq]
  omega

theorem dateOfDay_eq (cycles : Int) (split : DayInCycle) :
    dateOfDay (cycles * cycle + split.day + marchZero) = dateInCycle cycles split.day := by
  have hlt := split.day_lt
  unfold dateOfDay
  rw [Int.add_sub_cancel]
  have hcycles : (cycles * cycle + split.day) / cycle = cycles := by
    unfold cycle
    omega
  have hday : ((cycles * cycle + split.day) % cycle).toNat = split.day := by
    unfold cycle
    omega
  dsimp only
  rw [hcycles, hday]

/-- The date of the day of a date of the calendar is that date. -/
theorem dateOfDay_dayOfDate {date : Date} (hvalid : date.Valid) :
    dateOfDay (dayOfDate date) = date := by
  obtain ⟨year, month, day, hmonth, hday, rfl⟩ := exists_dateFromMarch hvalid
  obtain ⟨hyear, hnext⟩ := daysBeforeMonth_add_lt hmonth hday
  obtain ⟨cycles, inCycle, hlt, rfl⟩ : ∃ (cycles : Int) (inCycle : Nat),
      inCycle < 400 ∧ cycles * 400 + inCycle = year :=
    ⟨year / 400, (year % 400).toNat, by omega, by omega⟩
  obtain ⟨split, hsplitYear, hsplitDay⟩ := DayInCycle.exists_year_eq hlt hyear
  have hnumber : dayOfDate (dateFromMarch (cycles * 400 + inCycle) month day) =
      cycles * cycle + split.day + marchZero := by
    rw [dayOfDate_dateFromMarch _ hmonth, firstDay_cycle cycles inCycle hlt, split.day_eq,
      hsplitYear, hsplitDay]
    omega
  rw [hnumber, dateOfDay_eq, dateInCycle_day, hsplitYear, hsplitDay,
    monthOfDay_eq (Nat.le_add_right _ _) hnext, Nat.add_sub_cancel_left]

/-! ## The next day -/

theorem daysInMonth_le (year : Int) (month : Nat) : daysInMonth year month ≤ 31 := by
  unfold daysInMonth
  split
  · split <;> decide
  · decide
  · decide
  · decide
  · decide
  · decide

theorem monthLength_pos (year : Int) (month : Nat) : 0 < monthLength year month := by
  unfold monthLength daysInMonth
  split
  · split <;> decide
  · decide
  · decide
  · decide
  · decide
  · decide

/-- The next date in a year that begins in March. -/
theorem next_dateFromMarch (year : Int) {month : Nat} (hmonth : month < 12) (day : Nat) :
    (dateFromMarch year month day).next =
      if day + 1 < monthLength year month then dateFromMarch year month (day + 1)
      else if month < 11 then dateFromMarch year (month + 1) 0
      else dateFromMarch (year + 1) 0 0 := by
  change (if day + 1 < monthLength year month then _ else _) = _
  refine if_congr Iff.rfl rfl ?_
  interval_cases month <;> simp [dateFromMarch]

/-- The day of the next date is the next day. -/
theorem dayOfDate_next {date : Date} (hvalid : date.Valid) :
    date.next.Valid ∧ dayOfDate date.next = dayOfDate date + 1 := by
  obtain ⟨year, month, day, hmonth, hday, rfl⟩ := exists_dateFromMarch hvalid
  rw [next_dateFromMarch year hmonth, dayOfDate_dateFromMarch year hmonth]
  split
  · next hless =>
    refine ⟨valid_dateFromMarch year hmonth hless, ?_⟩
    rw [dayOfDate_dateFromMarch year hmonth]
    omega
  · split
    · next hlast hless =>
      have hfollowing : month + 1 < 12 := by omega
      refine ⟨valid_dateFromMarch year hfollowing (monthLength_pos year _), ?_⟩
      rw [dayOfDate_dateFromMarch year hfollowing, daysBeforeMonth_succ year hless]
      omega
    · next hlast hend =>
      obtain rfl : month = 11 := by omega
      refine ⟨valid_dateFromMarch _ (by decide) (monthLength_pos _ 0), ?_⟩
      have hlength := yearLength_eq year
      have hfirst : daysBeforeMonth 0 = 0 := rfl
      rw [dayOfDate_dateFromMarch _ (by decide), firstDay_succ, hfirst]
      omega

/-- The dates follow one another as the calendar has it. -/
theorem dateOfDay_succ (day : Int) : dateOfDay (day + 1) = (dateOfDay day).next := by
  obtain ⟨hvalid, hnext⟩ := dayOfDate_next (valid_dateOfDay day)
  rw [dayOfDate_dateOfDay] at hnext
  rw [← hnext, dateOfDay_dayOfDate hvalid]

theorem dateOfDay_zero : dateOfDay 0 = ⟨1970, 1, 1⟩ := by
  decide

/-- The days of the week follow one another, and 1 January 1970 was a Thursday. -/
theorem weekday_succ (day : Int) : weekday (day + 1) = (weekday day + 1) % 7 := by
  unfold weekday
  omega

theorem weekday_zero : weekday 0 = 4 := rfl

end Calendar

end LineLog
