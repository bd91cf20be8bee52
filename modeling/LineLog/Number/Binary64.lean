/-!
# Binary floating point

A finite number of the 64-bit format is an integer below 2^53 times a power of
two that is at least 2^-1074.  A decimal number denotes the nearest of them, of
two equally near ones the one with the even integer, and infinity beyond the
largest.
-/

namespace LineLog

inductive Binary64 where
  | finite (negative : Bool) (mantissa : Nat) (exponent : Int)
  | infinite (negative : Bool)
  | nan
  deriving DecidableEq, Repr

/-- A decimal number: an integer times a power of ten, with a sign. -/
structure Decimal where
  negative : Bool
  digits : Nat
  exponent : Int
  deriving DecidableEq, Repr

namespace Binary64

/-- The first integer that is too large. -/
def mantissaBound : Nat := Nat.pow 2 53

def minExponent : Int := -1074

/-- The exponent of the largest finite number. -/
def maxExponent : Int := 971

/-- `numerator / denominator` in units of two to the power `exponent`, as a
fraction. -/
def inUnits (numerator denominator : Nat) (exponent : Int) : Nat × Nat :=
  if exponent < 0 then (numerator * Nat.pow 2 exponent.natAbs, denominator)
  else (numerator, denominator * Nat.pow 2 exponent.toNat)

/-- The nearest integer to a fraction, an even one if two are equally near. -/
def roundToEven (numerator denominator : Nat) : Nat :=
  let quotient := numerator / denominator
  let twice := 2 * (numerator % denominator)
  if twice < denominator then quotient
  else if denominator < twice then quotient + 1
  else quotient + quotient % 2

/-- The exponent in whose units a fraction is below the bound, but not much. -/
def exponentOf (numerator denominator : Nat) : Int :=
  let estimate : Int := numerator.log2 - denominator.log2 - 53
  let exponent := max estimate minExponent
  let (scaled, unit) := inUnits numerator denominator exponent
  if scaled / unit < mantissaBound then exponent else exponent + 1

/-- The number nearest to a fraction. -/
def ofFraction (negative : Bool) (numerator denominator : Nat) : Binary64 :=
  let exponent := exponentOf numerator denominator
  let (scaled, unit) := inUnits numerator denominator exponent
  let mantissa := roundToEven scaled unit
  let (mantissa, exponent) :=
    if mantissa = mantissaBound then (mantissa / 2, exponent + 1) else (mantissa, exponent)
  if maxExponent < exponent then infinite negative else finite negative mantissa exponent

/-- More decimal places in front of the point than any finite number has. -/
def maxPlaces : Int := 310

/-- More decimal zeros behind the point than any number but zero has. -/
def minPlaces : Int := -400

/-- The number nearest to a decimal number. -/
def ofDecimal (decimal : Decimal) : Binary64 :=
  let places : Int := (Nat.toDigits 10 decimal.digits).length + decimal.exponent
  if decimal.digits = 0 || places < minPlaces then finite decimal.negative 0 minExponent
  else if maxPlaces < places then infinite decimal.negative
  else if decimal.exponent < 0 then
    ofFraction decimal.negative decimal.digits (Nat.pow 10 decimal.exponent.natAbs)
  else ofFraction decimal.negative (decimal.digits * Nat.pow 10 decimal.exponent.toNat) 1

end Binary64

end LineLog
