/-!
# The clock

Moments and lengths of time are counted in nanoseconds.  The seconds of the
clock are bounded, so a moment that is computed may lie outside it.
-/

namespace LineLog

/-- A reading of the clock or a length of time, in nanoseconds. -/
abbrev Nanoseconds := Nat

namespace Clock

def second : Nanoseconds := 1000000000

/-- The first moment that the clock cannot represent. -/
def bound : Nanoseconds := Nat.pow 2 63 * second

/-- A moment that the clock can represent. -/
def within? (moment : Nanoseconds) : Option Nanoseconds :=
  if moment < bound then some moment else none

end Clock

end LineLog
