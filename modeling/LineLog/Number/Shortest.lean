import LineLog.Number.Binary64

/-!
# The shortest text of a number

The shortest decimal number that reads back as a binary number has the fewest
digits; of several with that many digits it is the nearest, and the larger of
two equally near ones.  The text is positional, however large or small the
number is, and has at least one digit behind the point.  The compact text is
positional from a ten-thousandth up to ten to the sixteenth and has an exponent
elsewhere.
-/

namespace LineLog.Binary64

/-- A quarter of the distance to the next smaller number, as a fraction of one
unit in the last place: below a power of two the numbers are twice as dense. -/
def lowerQuarters (mantissa : Nat) (exponent : Int) : Nat :=
  if mantissa = mantissaBound / 2 && minExponent < exponent then 1 else 2

/-- Whether the decimal `digits * 10 ^ power` is read as `mantissa * 2 ^ exponent`:
it lies between the midpoints to the neighbours, and on one only if the integer
is even. -/
def readsBack (mantissa : Nat) (exponent : Int) (digits : Nat) (power : Int) : Bool :=
  let scale (value : Nat) (base : Nat) (power : Int) : Nat × Nat :=
    if power < 0 then (value, Nat.pow base power.natAbs) else (value * Nat.pow base power.toNat, 1)
  let (value, valueUnit) := scale digits 10 power
  let (low, lowUnit) := scale (4 * mantissa - lowerQuarters mantissa exponent) 2 (exponent - 2)
  let (high, highUnit) := scale (4 * mantissa + 2) 2 (exponent - 2)
  if mantissa % 2 = 0 then
    low * valueUnit ≤ value * lowUnit && value * highUnit ≤ high * valueUnit
  else low * valueUnit < value * lowUnit && value * highUnit < high * valueUnit

/-- `mantissa * 2 ^ exponent` in units of `10 ^ power`, as a fraction. -/
def inDecimalUnits (mantissa : Nat) (exponent power : Int) : Nat × Nat :=
  let numerator := if exponent < 0 then mantissa else mantissa * Nat.pow 2 exponent.toNat
  let denominator := if exponent < 0 then Nat.pow 2 exponent.natAbs else 1
  if power < 0 then (numerator * Nat.pow 10 power.natAbs, denominator)
  else (numerator, denominator * Nat.pow 10 power.toNat)

/-- The neighbour on the grid of `10 ^ power` that reads back, if there is one,
and the nearer one if both do. -/
def onGrid? (mantissa : Nat) (exponent power : Int) : Option Nat :=
  let (numerator, denominator) := inDecimalUnits mantissa exponent power
  let below := numerator / denominator
  let reads (digits : Nat) := readsBack mantissa exponent digits power
  match reads below, reads (below + 1) with
  | false, false => none
  | true, false => some below
  | false, true => some (below + 1)
  | true, true =>
      if 2 * (numerator % denominator) < denominator then some below else some (below + 1)

/-- The first hit when the grid is refined from `10 ^ power`, at most `steps`
times. -/
def refine (mantissa : Nat) (exponent power : Int) : Nat → Nat × Int
  | 0 => (0, power)
  | steps + 1 =>
      match onGrid? mantissa exponent power with
      | some digits => (digits, power)
      | none => refine mantissa exponent (power - 1) steps

/-- The power of ten at or above a number. -/
def topPower (mantissa : Nat) (exponent : Int) : Int :=
  let (numerator, denominator) := inDecimalUnits mantissa exponent 0
  if denominator ≤ numerator then (Nat.toDigits 10 (numerator / denominator)).length
  else 1 - ((Nat.toDigits 10 (denominator / numerator)).length : Int)

/-- No more than this many refinements are needed from the top power. -/
def maxRefinements : Nat := 20

/-- The digits of a positive number and the power of ten of the last of them. -/
def shortest (mantissa : Nat) (exponent : Int) : Nat × Int :=
  refine mantissa exponent (topPower mantissa exponent) maxRefinements

/-- A decimal number in positional form. -/
def positional (digits : Nat) (power : Int) : List Char :=
  let text := Nat.toDigits 10 digits
  if 0 ≤ power then text ++ List.replicate power.toNat '0' ++ ['.', '0']
  else
    let places := power.natAbs
    let text := List.replicate (places + 1 - text.length) '0' ++ text
    text.take (text.length - places) ++ ['.'] ++ text.drop (text.length - places)

/-- A decimal number with one digit in front of the point and an exponent. -/
def scientific (digits : Nat) (power : Int) : List Char :=
  let text := Nat.toDigits 10 digits
  let places := text.drop 1
  let mantissa := if places = [] then text else text.take 1 ++ '.' :: places
  mantissa ++ 'e' :: (toString (power + places.length)).toList

/-- The positional form where it is short and the one with an exponent elsewhere. -/
def compact (digits : Nat) (power : Int) : List Char :=
  let magnitude := power + (Nat.toDigits 10 digits).length
  if -4 < magnitude && magnitude ≤ 16 then positional digits power
  else scientific digits power

/-- The text of a number, with `write` for the digits of one that is not zero and
the power of ten of the last of them. -/
def textBy (write : Nat → Int → List Char) : Binary64 → String
  | nan => "NaN"
  | infinite negative => if negative then "-inf" else "inf"
  | finite negative mantissa exponent =>
      let body :=
        if mantissa = 0 then ['0', '.', '0']
        else
          let (digits, power) := shortest mantissa exponent
          write digits power
      String.ofList (if negative then '-' :: body else body)

def text (number : Binary64) : String :=
  number.textBy positional

def compactText (number : Binary64) : String :=
  number.textBy compact

end LineLog.Binary64
