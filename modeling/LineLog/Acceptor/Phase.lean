import LineLog.Server.Error

/-!
# The course of the accept loop

The loop waits for connections, accepts as long as there are any, and sweeps
the workers that have ended out of the registry.  It looks at the shutdown flag
before every wait and before every accept.  A connection that cannot be
accepted or started is dropped alone; only a failing poll ends the loop early.

The course is a machine: `next` takes it one step further, given what the step
found.  A step that does not fit the present phase is impossible.  Nothing here
depends on what identifies a client.
-/

namespace LineLog

inductive PollResult where
  | ready
  | interrupted
  | failed (error : Os.Error)
  deriving DecidableEq, Repr

inductive AcceptResult (Client : Type) where
  | connection (client : Client)
  | wouldBlock
  | interrupted
  | failed (error : Os.Error)
  deriving DecidableEq, Repr

/-- How starting a worker goes: its socket cannot be set up, its thread cannot
be started, or it runs. -/
inductive StartResult where
  | notSetUp (error : Os.Error)
  | notStarted (error : Os.Error)
  | started
  deriving DecidableEq, Repr

/-- What a step of the loop finds. -/
inductive AcceptStep (Client : Type) where
  /-- The flag is looked at. -/
  | look (stopping : Bool)
  | poll (result : PollResult)
  | accept (result : AcceptResult Client)
  | start (result : StartResult)
  | sweep
  deriving DecidableEq, Repr

/-- Where the loop is. -/
inductive AcceptPhase (Client : Type) where
  /-- About to look at the flag and to wait. -/
  | beforePoll
  | polling
  /-- About to look at the flag and to accept. -/
  | beforeAccept
  | accepting
  | starting (client : Client)
  | sweeping
  | stopped (result : Except ServerError Unit)

namespace AcceptPhase

variable {Client : Type}

/-- The phase after a step, if the step is possible. -/
def next : AcceptPhase Client → AcceptStep Client → Option (AcceptPhase Client)
  | .beforePoll, .look true => some (.stopped (.ok ()))
  | .beforePoll, .look false => some .polling
  | .polling, .poll .ready => some .beforeAccept
  | .polling, .poll .interrupted => some .beforePoll
  | .polling, .poll (.failed error) => some (.stopped (.error (.poll error)))
  | .beforeAccept, .look true => some .sweeping
  | .beforeAccept, .look false => some .accepting
  | .accepting, .accept (.connection client) => some (.starting client)
  | .accepting, .accept .wouldBlock => some .sweeping
  | .accepting, .accept .interrupted => some .beforeAccept
  | .accepting, .accept (.failed _) => some .sweeping
  | .starting _, .start _ => some .beforeAccept
  | .sweeping, .sweep => some .beforePoll
  | _, _ => none

/-- The steps of a pass in which nothing is waiting to be accepted. -/
def idlePass : List (AcceptStep Client) :=
  [.look false, .poll .ready, .look false, .accept .wouldBlock, .sweep]

end AcceptPhase

end LineLog
