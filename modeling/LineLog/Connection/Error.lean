import LineLog.Store.Error

/-!
# Failures of a connection

A connection fails on its own while it receives, while its record is appended,
or while the reply is sent.
-/

namespace LineLog

inductive ConnectionError where
  | receive (cause : Os.Error)
  | append (cause : StoreError)
  | send (cause : Os.Error)
  deriving DecidableEq, Repr

namespace ConnectionError

def message : ConnectionError → String
  | receive cause => s!"receive failed: {cause.message}"
  | append cause => s!"append failed: {cause.message}"
  | send cause => s!"send failed: {cause.message}"

/-- The messages of the causes, the nearest first. -/
def sources : ConnectionError → List String
  | receive cause | send cause => [cause.message]
  | append cause => cause.message :: cause.sources

end ConnectionError

end LineLog
