import LineLog.Acceptor.Phase

/-!
# The queue in front of the accept loop

The system queues connections until they are accepted.  A poll does not report
that the queue holds something, only that something was added since the last
report: every arrival sets an edge, a poll that reports the listening socket
clears it, and a poll that returns for another reason, because time has passed
or because it was woken, leaves it alone.
-/

namespace LineLog

structure AcceptQueue (Client : Type) where
  phase : AcceptPhase Client
  waiting : List Client
  /-- Something arrived that no poll has reported yet. -/
  edge : Bool
  /-- The shutdown flag. -/
  stopping : Bool
  /-- The latest attempt to accept failed for a reason that may pass. -/
  failed : Bool

inductive QueueEvent (Client : Type) where
  | arrive (client : Client)
  /-- Shutdown is requested. -/
  | trigger
  /-- A poll reports the listening socket. -/
  | report
  /-- A step of the loop; a poll among them reports nothing. -/
  | step (step : AcceptStep Client)
  deriving DecidableEq, Repr

namespace AcceptQueue

variable {Client : Type}

/-- The queue when the socket is registered with the poller, which reports the
connections that came before. -/
def initial (waiting : List Client) : AcceptQueue Client where
  phase := .beforePoll
  waiting
  edge := !waiting.isEmpty
  stopping := false
  failed := false

/-- Whether the system can answer a step in this way. -/
def permits [DecidableEq Client] (queue : AcceptQueue Client) : AcceptStep Client → Bool
  | .look stopping => stopping = queue.stopping
  | .accept (.connection client) => queue.waiting.head? = some client
  | .accept .wouldBlock => queue.waiting.isEmpty
  | _ => true

/-- What a step of the loop takes from the queue. -/
def take (step : AcceptStep Client) (queue : AcceptQueue Client) : AcceptQueue Client :=
  match step with
  | .accept (.connection _) => { queue with waiting := queue.waiting.tail, failed := false }
  | .accept (.failed _) => { queue with failed := true }
  | .accept _ => { queue with failed := false }
  | _ => queue

def next [DecidableEq Client] (queue : AcceptQueue Client) :
    QueueEvent Client → Option (AcceptQueue Client)
  | .arrive client =>
      some { queue with waiting := queue.waiting ++ [client], edge := true }
  | .trigger => some { queue with stopping := true }
  | .report =>
      if queue.edge then
        (queue.phase.next (.poll .ready)).map fun phase => { queue with phase, edge := false }
      else none
  | .step step =>
      if queue.permits step then
        (queue.phase.next step).map fun phase => { queue.take step with phase }
      else none

/-- The queue after all of `events`, if they are possible one after the other. -/
def run [DecidableEq Client] (queue : AcceptQueue Client)
    (events : List (QueueEvent Client)) : Option (AcceptQueue Client) :=
  events.foldlM next queue

end AcceptQueue

end LineLog
