import LineLog.Bytes
import LineLog.Calendar

/-!
# Timestamp records

A timestamp record is one line that names an instant in a zone: the word
`timestamp:`, the local weekday, date and time, and the offset of the zone from
universal time in hours and minutes.  A leap second is the second half of a
second twice as long and is written as one second more.
-/

namespace LineLog

/-- A point in time: seconds since the start of 1970 in universal time, and the
nanoseconds after that.  A billion nanoseconds or more denote a leap second. -/
structure Instant where
  seconds : Int
  nanos : Nat
  deriving DecidableEq, Repr

namespace Instant

/-- The first instant that can be represented, 1 January of the year -262143. -/
def earliest : Int := -8334601228800

/-- The last second that can be represented, the end of the year 262142. -/
def latest : Int := 8210266876799

/-- The instant some nanoseconds after the start of 1970. -/
def ofNanos (nanos : Nat) : Instant where
  seconds := (nanos / 1000000000 : Nat)
  nanos := nanos % 1000000000

def isLeap (instant : Instant) : Bool :=
  1000000000 ≤ instant.nanos

/-- Whether an instant can be made from its seconds and nanoseconds: within the range
of the calendar, and a leap second only at the end of a minute.  An instant whose
nanoseconds are changed afterwards can be a leap second anywhere. -/
def valid (instant : Instant) : Bool :=
  earliest ≤ instant.seconds && instant.seconds ≤ latest &&
    instant.nanos < 2000000000 && (!instant.isLeap || instant.seconds % 60 = 59)

end Instant

namespace Timestamp

/-- Seconds in a day, and the bound of every offset. -/
def day : Int := 86400

def validOffset (offset : Int) : Bool :=
  -day < offset && offset < day

/-- The decimal digits of `value`, at least `width` of them. -/
def padded (width value : Nat) : List Char :=
  let digits := Nat.toDigits 10 value
  List.replicate (width - digits.length) '0' ++ digits

/-- Four digits at least, with a sign outside the years 0 to 9999. -/
def yearText (year : Int) : List Char :=
  if 0 ≤ year && year ≤ 9999 then padded 4 year.toNat
  else (if year < 0 then '-' else '+') :: padded 4 year.natAbs

/-- Sign, hours and minutes; odd seconds are rounded to the nearest minute. -/
def zoneText (offset : Int) : List Char :=
  let minutes := (offset.natAbs + 30) / 60
  (if offset < 0 then '-' else '+') :: padded 2 (minutes / 60) ++ padded 2 (minutes % 60)

def label : List Char := "timestamp:".toList

/-- Date and time of day in a zone, from the seconds of the local clock. -/
def clockText (localSeconds : Int) (leap : Bool) : List Char :=
  let number := localSeconds / day
  let ofDay := (localSeconds % day).toNat
  let date := Calendar.dateOfDay number
  let second := ofDay % 60 + (if leap then 1 else 0)
  ((Calendar.weekdayNames.getD (Calendar.weekday number) "").toList ++ ", ".toList) ++
    (padded 2 date.day ++ [' ']) ++
    ((Calendar.monthNames.getD (date.month - 1) "").toList ++ [' ']) ++
    (yearText date.year ++ [' ']) ++
    (padded 2 (ofDay / 3600) ++ [':']) ++
    (padded 2 (ofDay / 60 % 60) ++ [':']) ++
    padded 2 second

/-- The record for an instant in the zone `offset` seconds east. -/
def record (instant : Instant) (offset : Int) : List Char :=
  label ++ clockText (instant.seconds + offset) instant.isLeap ++ [' '] ++
    zoneText offset ++ ['\n']

/-- The record as it is appended to the log. -/
def recordBytes (instant : Instant) (offset : Int) : Bytes :=
  (record instant offset).map fun char => char.toNat.toUInt8

end Timestamp

end LineLog
