import LineLog.Timestamp.Basic

/-!
# Reading timestamp records

A timestamp record determines the second that is written, whether that is a leap
second, and the offset, as long as the offset is a whole number of minutes.  The
decoder reads the fields by their places; only the year has a varying width and ends
at the next blank.  It checks that the weekday is the one of the date.
-/

namespace LineLog.Timestamp

/-- What a record says. -/
structure Reading where
  seconds : Int
  leap : Bool
  offset : Int
  deriving DecidableEq, Repr

/-- What is written of an instant.  A leap second is written as one second more, and in
the middle of a minute that is the second after it. -/
def Reading.ofInstant (instant : Instant) (offset : Int) : Reading :=
  if instant.isLeap = true ∧ instant.seconds % 60 ≠ 59 then ⟨instant.seconds + 1, false, offset⟩
  else ⟨instant.seconds, instant.isLeap, offset⟩

def digitValue? (char : Char) : Option Nat :=
  if '0' ≤ char && char ≤ '9' then some (char.toNat - '0'.toNat) else none

/-- The value of a nonempty string of decimal digits. -/
def number? (text : List Char) : Option Nat :=
  if text = [] then none
  else text.foldl
    (fun value char => do some ((← value) * 10 + (← digitValue? char))) (some 0)

def year? : List Char → Option Int
  | '-' :: text => (number? text).map fun value => -(value : Int)
  | '+' :: text => (number? text).map Int.ofNat
  | text => (number? text).map Int.ofNat

/-- The rest of the text after a given beginning. -/
def skip? (start text : List Char) : Option (List Char) :=
  if start.isPrefixOf text then some (text.drop start.length) else none

/-- Hours, minutes and sign of a zone. -/
def zone? : List Char → Option Int
  | sign :: text => do
      let hours ← number? (text.take 2)
      let minutes ← number? (text.drop 2)
      let size : Int := (hours * 60 + minutes) * 60
      if text.length ≠ 4 then none
      else if sign = '+' then some size
      else if sign = '-' then some (-size)
      else none
  | [] => none

def decode? (text : List Char) : Option Reading := do
  let text ← skip? label text
  let name := text.take 3
  let text ← skip? ", ".toList (text.drop 3)
  let day ← number? (text.take 2)
  let text ← skip? [' '] (text.drop 2)
  let month := Calendar.monthNames.idxOf (String.ofList (text.take 3)) + 1
  let text ← skip? [' '] (text.drop 3)
  let year ← year? (text.takeWhile (· ≠ ' '))
  let text ← skip? [' '] (text.dropWhile (· ≠ ' '))
  let hour ← number? (text.take 2)
  let text ← skip? [':'] (text.drop 2)
  let minute ← number? (text.take 2)
  let text ← skip? [':'] (text.drop 2)
  let second ← number? (text.take 2)
  let text ← skip? [' '] (text.drop 2)
  let offset ← zone? (text.take 5)
  let number := Calendar.dayOfDate ⟨year, month, day⟩
  let leap := second = 60
  let ofDay : Int := hour * 3600 + minute * 60 + if leap then 59 else second
  if text.drop 5 ≠ ['\n'] then none
  else if Calendar.weekdayNames[Calendar.weekday number]? ≠ some (String.ofList name) then none
  else some ⟨number * Timestamp.day + ofDay - offset, leap, offset⟩

/-- The record of what a reading says. -/
def Reading.record (reading : Reading) : List Char :=
  Timestamp.record ⟨reading.seconds, if reading.leap then 1000000000 else 0⟩ reading.offset

/-- Whether a line is exactly the record of the instant that it names. -/
def isRecord (text : List Char) : Bool :=
  match decode? text with
  | some reading => reading.record = text
  | none => false

end LineLog.Timestamp
