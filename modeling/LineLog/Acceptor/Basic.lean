import LineLog.Acceptor.Phase

/-!
# The accounts of the accept loop

The loop numbers the connections whose sockets were set up in the order in
which they were accepted, and puts every worker that was started into the
registry, where it stays until a sweep finds that it has ended.
-/

namespace LineLog

structure Acceptor where
  phase : AcceptPhase SocketAddress
  /-- The number of the next connection. -/
  nextId : Nat
  registry : Registry

/-- What changes the accounts: a step of the loop, or the end of the task of a
registered worker, which may come at any time. -/
inductive AcceptInput where
  | step (step : AcceptStep SocketAddress)
  | finish (key : Nat) (ending : Ending)
  deriving DecidableEq, Repr

namespace Acceptor

def initial : Acceptor where
  phase := .beforePoll
  nextId := 0
  registry := .empty

/-- Enters a step into the accounts. -/
def account (step : AcceptStep SocketAddress) (acceptor : Acceptor) : Acceptor :=
  match acceptor.phase, step with
  | .starting _, .start (.notStarted _) => { acceptor with nextId := acceptor.nextId + 1 }
  | .starting peer, .start .started =>
      { acceptor with
        nextId := acceptor.nextId + 1
        registry := (acceptor.registry.insert ⟨acceptor.nextId, peer, none⟩).1 }
  | .sweeping, .sweep => { acceptor with registry := acceptor.registry.reap.1 }
  | _, _ => acceptor

/-- One step of the loop, if it is possible. -/
def next (acceptor : Acceptor) : AcceptInput → Option Acceptor
  | .finish key ending =>
      some { acceptor with registry := acceptor.registry.finish key ending }
  | .step step =>
      (acceptor.phase.next step).map fun phase => { acceptor.account step with phase }

/-- The loop after all of `inputs`, if they are possible one after the other. -/
def run (acceptor : Acceptor) (inputs : List AcceptInput) : Option Acceptor :=
  inputs.foldlM next acceptor

end Acceptor

end LineLog
