import LineLog.Path
import LineLog.SocketAddress.Basic

/-!
# Settings of the service

The settings that are in force after the command line, the document and the
defaults have been merged.
-/

namespace LineLog

/-- A length of time as whole seconds and the nanoseconds after them. -/
structure Duration where
  seconds : Nat
  nanos : Nat
  deriving DecidableEq, Repr

namespace Duration

def ofMillis (millis : Nat) : Duration where
  seconds := millis / 1000
  nanos := millis % 1000 * 1000000

def ofSeconds (seconds : Nat) : Duration where
  seconds := seconds
  nanos := 0

def toNanos (duration : Duration) : Nat :=
  duration.seconds * 1000000000 + duration.nanos

end Duration

structure Settings where
  listen : SocketAddress
  /-- How many connections may wait to be accepted. -/
  backlog : Int
  /-- The bound on every blocking wait. -/
  pollInterval : Duration
  dataFile : Path
  /-- The time between timestamp records; there are none without it. -/
  timestampInterval : Option Duration
  daemon : Bool
  logLevel : String
  /-- The log goes to the standard output without it. -/
  logFile : Option Path
  deriving DecidableEq, Repr

end LineLog
