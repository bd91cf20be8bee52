import LineLog.Clock
import LineLog.Ending

/-!
# The timestamp ticker

The ticker writes a record whenever its deadline has passed.  Deadlines keep a
fixed cadence; after a stall the missed ones are skipped and the cadence starts
again from the present.  The next deadline may lie outside the clock, and then
there is none.
-/

namespace LineLog

structure Ticker where
  interval : Nanoseconds
  deadline : Nanoseconds
  deriving DecidableEq, Repr

namespace Ticker

/-- The name of the thread that runs the ticker. -/
def threadName : String := "timestamp"

/-- The ticker at its start, if the first deadline is within the clock. -/
def start? (interval now : Nanoseconds) : Option Ticker :=
  (Clock.within? (now + interval)).map fun deadline => { interval, deadline }

/-- The ticker after a record was written and the clock then read `now`. -/
def advance? (now : Nanoseconds) (ticker : Ticker) : Option Ticker := do
  let next ← Clock.within? (ticker.deadline + ticker.interval)
  if next < now then
    let restart ← Clock.within? (now + ticker.interval)
    some { ticker with deadline := restart }
  else some { ticker with deadline := next }

/-- How long to sleep until the deadline. -/
def wait (now : Nanoseconds) (ticker : Ticker) : Nanoseconds :=
  ticker.deadline - now

/-- The moments of the records, at most `limit` of them, that are written on
time before shutdown is requested at `stop`, and how the ticker ends. -/
def ticksBefore (stop : Nanoseconds) : Nat → Ticker → List Nanoseconds × Ending
  | 0, _ => ([], .returned)
  | limit + 1, ticker =>
      if stop ≤ ticker.deadline then ([], .returned)
      else
        match ticker.advance? ticker.deadline with
        | none => ([ticker.deadline], .panicked)
        | some next =>
            let (moments, ending) := ticksBefore stop limit next
            (ticker.deadline :: moments, ending)

end Ticker

end LineLog
