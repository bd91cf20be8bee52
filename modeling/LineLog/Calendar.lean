/-!
# The calendar

Dates of the proleptic Gregorian calendar, with a year zero and negative years
before it.  A date corresponds to a day number counted from 1 January 1970.
The computation counts years from March, so that the leap day is the last day
of its year, and uses that the calendar repeats after 400 years, which are
146097 days.
-/

namespace LineLog

structure Date where
  year : Int
  /-- From 1 to 12. -/
  month : Nat
  /-- From 1. -/
  day : Nat
  deriving DecidableEq, Repr

namespace Calendar

/-- The days of 400 years. -/
def cycle : Int := 146097

/-- The day number of 1 March of the year zero. -/
def marchZero : Int := -719468

def isLeap (year : Int) : Bool :=
  year % 4 = 0 && (year % 100 ≠ 0 || year % 400 = 0)

def daysInMonth (year : Int) (month : Nat) : Nat :=
  match month with
  | 2 => if isLeap year then 29 else 28
  | 4 | 6 | 9 | 11 => 30
  | _ => 31

/-- The days before a month in a year that begins in March, the month being
counted from zero. -/
def daysBeforeMonth (month : Nat) : Nat :=
  (153 * month + 2) / 5

/-- The date of a day within a cycle, which begins on 1 March of a year that is
divisible by 400. -/
def dateInCycle (cycles : Int) (day : Nat) : Date :=
  let year := (day - day / 1460 + day / 36524 - day / 146096) / 365
  let dayOfYear := day - (365 * year + year / 4 - year / 100)
  let month := (5 * dayOfYear + 2) / 153
  { year := cycles * 400 + year + (if month < 10 then 0 else 1)
    month := if month < 10 then month + 3 else month - 9
    day := dayOfYear - daysBeforeMonth month + 1 }

def dateOfDay (day : Int) : Date :=
  let fromMarch := day - marchZero
  dateInCycle (fromMarch / cycle) (fromMarch % cycle).toNat

def dayOfDate (date : Date) : Int :=
  let year := if date.month ≤ 2 then date.year - 1 else date.year
  let month := if date.month ≤ 2 then date.month + 9 else date.month - 3
  let yearOfCycle := year % 400
  year / 400 * cycle + 365 * yearOfCycle + yearOfCycle / 4 - yearOfCycle / 100 +
    daysBeforeMonth month + date.day - 1 + marchZero

/-- The day of the week, counted from Sunday. -/
def weekday (day : Int) : Nat :=
  ((day + 4) % 7).toNat

def weekdayNames : List String :=
  ["Sun", "Mon", "Tue", "Wed", "Thu", "Fri", "Sat"]

def monthNames : List String :=
  ["Jan", "Feb", "Mar", "Apr", "May", "Jun", "Jul", "Aug", "Sep", "Oct", "Nov", "Dec"]

end Calendar

end LineLog
