import LineLog.Calendar
import LineLog.Toml.Strings

/-!
# Numbers, dates and times

Underscores may stand between digits.  Decimal integers have no leading zeros
and are kept within 64 bits; other bases have lower-case marks and no sign.  A
decimal number beyond the range of floating point is refused if it is positive
and becomes negative infinity if it is negative.  Dates exist in the calendar,
and times have seconds, of which there may be sixty.
-/

namespace LineLog.Toml

open LineLog.Toml.Parser

def isDigit (char : Char) : Bool :=
  '0' ≤ char && char ≤ '9'

/-- Digits with underscores between them, without the underscores. -/
def digitsWhere (accepts : Char → Bool) : Parser (List Char) :=
  many1 (satisfy accepts) >>= fun first => do
    let others ← many (char '_' *> many1 (satisfy accepts))
    pure (first ++ others.flatten)

/-- Decimal digits of which the first is not zero, or a single zero. -/
def plainDigits : Parser (List Char) := do
  match ← peek? with
  | some '0' => List.singleton <$> satisfy (· = '0')
  | _ => digitsWhere isDigit

/-- Whether there is a minus sign. -/
def sign : Parser Bool :=
  (char '-' *> pure true) <|> (char '+' *> pure false) <|> pure false

/-- Within the signed integers of 64 bits. -/
def fits (number : Int) : Bool :=
  -Int.pow 2 63 ≤ number && number < Int.pow 2 63

def within (number : Int) : Parser Int :=
  if fits number then pure number else fail

def basedInteger (mark : Char) (base : Nat) : Parser Int := do
  text ['0', mark]
  let digits ← digitsWhere fun char => (hexDigit? char).any (· < base)
  within (valueOfDigits base digits)

def decimalInteger : Parser Int := do
  let negative ← sign
  let digits ← plainDigits
  let value : Int := valueOfDigits 10 digits
  within (if negative then -value else value)

def integer : Parser Int :=
  basedInteger 'x' 16 <|> basedInteger 'o' 8 <|> basedInteger 'b' 2 <|> decimalInteger

def exponent : Parser Int := do
  let _ ← satisfy fun char => char = 'e' || char = 'E'
  let negative ← sign
  let digits ← digitsWhere isDigit
  let value : Int := valueOfDigits 10 digits
  pure (if negative then -value else value)

def fraction : Parser (List Char) := do
  char '.'
  digitsWhere isDigit

def decimal : Parser Decimal := do
  let negative ← sign
  let whole ← plainDigits
  let (places, power) ←
    (do
      let power ← exponent
      pure ([], power)) <|>
    (do
      let places ← fraction
      let power ← perhaps exponent
      pure (places, power.getD 0))
  pure ⟨negative, valueOfDigits 10 (whole ++ places), power - places.length⟩

def specialFloat : Parser Binary64 := do
  let negative ← sign
  (text ['i', 'n', 'f'] *> pure (.infinite negative)) <|> (text ['n', 'a', 'n'] *> pure .nan)

def float : Parser Binary64 :=
  (do
    match Binary64.ofDecimal (← decimal) with
    | .infinite false => fail
    | number => pure number) <|> specialFloat

/-- A number of exactly `count` digits. -/
def fixedDigits (count : Nat) : Parser Nat :=
  valueOfDigits 10 <$> exactly (satisfy isDigit) count

/-- A number of two digits within bounds. -/
def twoDigits (low high : Nat) : Parser Nat := do
  let number ← fixedDigits 2
  if low ≤ number && number ≤ high then pure number else fail

def date : Parser DateOf := do
  let year ← fixedDigits 4
  char '-'
  let month ← twoDigits 1 12
  char '-'
  let day ← twoDigits 1 (Calendar.daysInMonth year month)
  pure ⟨year, month, day⟩

/-- A time of day whose hour is at most `lastHour`. -/
def timeUpTo (lastHour : Nat) : Parser TimeOf := do
  let hour ← twoDigits 0 lastHour
  char ':'
  let minute ← twoDigits 0 59
  char ':'
  let second ← twoDigits 0 60
  let fraction ← perhaps (char '.' *> many1 (satisfy isDigit))
  pure ⟨hour, minute, second, fraction.getD []⟩

/-- The offset from universal time in minutes; its hour and its minute are at most
`lastHour` and `lastMinute`. -/
def offsetUpTo (lastHour lastMinute : Nat) : Parser Int :=
  ((satisfy fun char => char = 'Z' || char = 'z') *> pure 0) <|> do
    let mark ← satisfy fun char => char = '+' || char = '-'
    let hour ← twoDigits 0 lastHour
    char ':'
    let minute ← twoDigits 0 lastMinute
    let size : Int := hour * 60 + minute
    pure (if mark = '-' then -size else size)

/-- A date, a time of day, or both with an offset. -/
def momentOf (time : Parser TimeOf) (offset : Parser Int) : Parser DateTime :=
  (do
    let date ← date
    let rest ← perhaps do
      let _ ← satisfy fun char => char = 'T' || char = 't' || char = ' '
      let time ← time
      let offset ← perhaps offset
      pure (time, offset)
    match rest with
    | some (time, offset) => pure (.both date time offset)
    | none => pure (.date date)) <|> (.time <$> time)

def dateTime : Parser DateTime :=
  momentOf (timeUpTo 23) (offsetUpTo 23 59)

def boolean : Parser Bool :=
  (text "true".toList *> pure true) <|> (text "false".toList *> pure false)

end LineLog.Toml
