import LineLog.Drain
import LineLog.SocketAddress.Basic

/-!
# Failures of the server

Starting the server fails at one of its steps; ending it fails with the report
of the drain.
-/

namespace LineLog

inductive ServerError where
  | bind (address : SocketAddress) (cause : Os.Error)
  | poll (cause : Os.Error)
  | signals (cause : Os.Error)
  | spawn (cause : Os.Error)
  | daemonize (cause : Os.Error)
  | shutdown (report : DrainReport)
  deriving DecidableEq, Repr

namespace ServerError

def message : ServerError → String
  | bind address cause => s!"Failed to listen on {address.text}: {cause.message}"
  | poll cause => s!"Poller failed: {cause.message}"
  | signals cause => s!"Failed to set up signal handling: {cause.message}"
  | spawn cause => s!"Failed to spawn thread: {cause.message}"
  | daemonize cause => s!"Failed to daemonize: {cause.message}"
  | shutdown report => report.message

/-- The messages of the causes, the nearest first. -/
def sources : ServerError → List String
  | bind _ cause | poll cause | signals cause | spawn cause | daemonize cause =>
      [cause.message]
  | shutdown report => report.message :: report.sources

end ServerError

end LineLog
