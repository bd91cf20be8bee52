import LineLog.Store.Basic
import LineLog.Ticker.Basic
import LineLog.Timestamp.Basic

/-!
# The records of a ticker

A ticker that is never late appends one record at each of its deadlines.
-/

namespace LineLog.Store

/-- Runs a ticker from `start` until shutdown is requested at `stop`, for at most
`limit` records, and says how it ends.  Its clock counts from the epoch. -/
def tickUntil (stop interval start : Nanoseconds) (limit : Nat) (store : Store) (host : Host) :
    (Host × Store) × Ending :=
  match Ticker.start? interval start with
  | none => ((host, store), .panicked)
  | some ticker =>
      let (moments, ending) := ticker.ticksBefore stop limit
      (moments.foldl (fun (host, store) moment =>
        (store.append (Timestamp.recordBytes (Instant.ofNanos moment) 0) host).1)
        (host, store), ending)

end LineLog.Store
