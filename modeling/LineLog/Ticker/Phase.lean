import LineLog.Ending

/-!
# The course of the ticker

The ticker computes a deadline, waits for it or for shutdown, appends a record,
and starts again.  A wait that ends with the flag set ends the ticker.  A
deadline outside the clock makes it panic.
-/

namespace LineLog

inductive TickerPhase where
  /-- About to compute a deadline. -/
  | scheduling
  /-- Waiting for the deadline or for shutdown. -/
  | waiting
  | appending
  | ended (ending : Ending)
  deriving DecidableEq, Repr

/-- What a step of the ticker finds. -/
inductive TickerInput where
  | schedule
  /-- The wait is over and the flag is looked at. -/
  | look (stopping : Bool)
  /-- A record was appended, or the log refused it. -/
  | append
  | panic
  deriving DecidableEq, Repr

namespace TickerPhase

/-- The phase after a step, if the step is possible. -/
def next : TickerPhase → TickerInput → Option TickerPhase
  | .ended _, _ => none
  | _, .panic => some (.ended .panicked)
  | .scheduling, .schedule => some .waiting
  | .waiting, .look true => some (.ended .returned)
  | .waiting, .look false => some .appending
  | .appending, .append => some .scheduling
  | _, _ => none

end TickerPhase

end LineLog
