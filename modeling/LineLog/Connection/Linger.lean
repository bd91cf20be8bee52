import LineLog.Clock
import LineLog.Connection.Receive

/-!
# Lingering after the reply

After the reply the connection reads and forgets what the peer still sends, until
the peer closes, a read fails, or the deadline has passed.  The clock is looked
at before every read, so the last read may end after the deadline.
-/

namespace LineLog

/-- One round of lingering: the clock, what the read after that brings, and the
clock when the read has ended. -/
structure LingerRound where
  now : Nanoseconds
  read : Read
  done : Nanoseconds
  deriving DecidableEq, Repr

inductive LingerEnd where
  | deadline
  | closed
  | failed
  deriving DecidableEq, Repr

namespace Linger

/-- How long a connection lingers that has no time-out for its reads. -/
def defaultTime : Nanoseconds := 100000000

/-- How long a connection lingers. -/
def time (readTimeout : Option Nanoseconds) : Nanoseconds :=
  readTimeout.getD defaultTime

/-- Whether lingering ends with this round, and why.  A read that times out counts
as failed. -/
def end? (deadline : Nanoseconds) (round : LingerRound) : Option LingerEnd :=
  if deadline ≤ round.now then some .deadline
  else
    match round.read with
    | .chunk _ | .interrupted => none
    | .endOfStream => some .closed
    | .timedOut | .failed _ => some .failed

/-- The first of the rounds before `limit` with which lingering ends. -/
def endBefore? (deadline : Nanoseconds) (rounds : Nat → LingerRound) :
    Nat → Option (Nat × LingerEnd)
  | 0 => none
  | limit + 1 =>
      (endBefore? deadline rounds limit).orElse fun _ =>
        (end? deadline (rounds limit)).map (limit, ·)

/-- Whether the read of a round is made when lingering ends with round `last`: the
deadline ends lingering before the read. -/
def reads (last : Nat) (reason : LingerEnd) (number : Nat) : Bool :=
  number < last || number = last && reason ≠ .deadline

end Linger

end LineLog
