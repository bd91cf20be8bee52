import LineLog.Clock

/-!
# The shutdown flag

Shutdown is requested once and for all.  Only the call that sets the flag
answers `true`; it wakes every sleeper and the poller of the accept loop, which
sees one wake-up for it.
-/

namespace LineLog

structure Shutdown where
  requested : Bool
  /-- The poller has been woken and has not looked yet. -/
  wakePending : Bool
  deriving DecidableEq, Repr

namespace Shutdown

def initial : Shutdown where
  requested := false
  wakePending := false

def trigger (shutdown : Shutdown) : Shutdown × Bool :=
  if shutdown.requested then (shutdown, false)
  else ({ requested := true, wakePending := true }, true)

/-- Whether the poller was woken since the last look. -/
def poll (shutdown : Shutdown) : Shutdown × Bool :=
  ({ shutdown with wakePending := false }, shutdown.wakePending)

/-- Waits for the request while nobody else makes it: whether there is one, and how
long that takes. -/
def wait (timeout : Nanoseconds) (shutdown : Shutdown) : Bool × Nanoseconds :=
  (shutdown.requested, if shutdown.requested then 0 else timeout)

/-- The answers to several triggers one after the other. -/
def triggerAll (shutdown : Shutdown) : Nat → Shutdown × List Bool
  | 0 => (shutdown, [])
  | count + 1 =>
      let (shutdown, first) := shutdown.trigger
      let (shutdown, others) := shutdown.triggerAll count
      (shutdown, first :: others)

end Shutdown

end LineLog
