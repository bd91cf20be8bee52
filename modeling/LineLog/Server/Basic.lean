import LineLog.Acceptor.Basic
import LineLog.Settings.Basic
import LineLog.Ticker.Basic

/-!
# Starting and ending the server

Binding takes three descriptors, one after the other: the listening socket, the
poller, and the means to wake it.  The first failure is the result and gives
back what was taken.  When the accept loop has ended, the service is drained in
any case; a failure of the loop outweighs the report of the drain.
-/

namespace LineLog.Server

/-- Takes the descriptors of a listening socket and its poller and returns their
numbers. -/
def bind (address : SocketAddress) (host : Host) : Except ServerError (Host × List Nat) := do
  let asBind {α : Type} : Except Os.Error α → Except ServerError α :=
    Except.mapError (.bind address)
  let asPoll {α : Type} : Except Os.Error α → Except ServerError α :=
    Except.mapError .poll
  let (listener, host) ← asBind host.takeDescriptor
  asBind (host.network.listen address)
  let (poller, host) ← asPoll host.takeDescriptor
  let (waker, host) ← asPoll host.takeDescriptor
  .ok (host, [listener, poller, waker])

/-- Closes what `bind` took. -/
def unbind (numbers : List Nat) (host : Host) : Host :=
  numbers.foldl (fun host number => host.releaseDescriptor number) host

/-- How a ticker ends that is stopped before its first deadline: it panics if
the clock has no such deadline. -/
def tickerEnding (interval now : Nanoseconds) : Ending :=
  if (Ticker.start? interval now).isSome then .returned else .panicked

/-- What the server ends with, from the result of the accept loop and the report
of the drain. -/
def outcome (accepted : Except ServerError Unit) (report : DrainReport) :
    Except ServerError Unit := do
  accepted
  if report.isClean then .ok () else .error (.shutdown report)

end LineLog.Server
