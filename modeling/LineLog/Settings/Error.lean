import LineLog.Os.Error
import LineLog.Path
import LineLog.SocketAddress.Parse
import LineLog.Toml.Excerpt

/-!
# Failures of the settings

The settings document cannot be read, is no document, or holds a value of the
wrong kind; the address does not read; the poll interval is zero; or the log
file cannot be opened.
-/

namespace LineLog

/-- Why a text does not hold settings. -/
inductive DocumentError where
  /-- The text is not a document. -/
  | malformed
  /-- The document holds a value that was not expected in its place. -/
  | mismatch (cause : Toml.Mismatch)
  deriving DecidableEq, Repr

inductive SettingsError where
  | fileRead (path : Path) (cause : Os.Error)
  | document (path : Path) (text : String) (cause : DocumentError)
  | listen (text : String)
  | pollInterval
  | logFile (path : Path) (cause : Os.Error)
  deriving DecidableEq, Repr

def DocumentError.message (text : String) : DocumentError → String
  | malformed => "TOML parse error\n"
  | mismatch cause => cause.report text

namespace SettingsError

def message : SettingsError → String
  | fileRead path cause => s!"Failed to read config file '{path.display}': {cause.message}"
  | document path text cause =>
      "Failed to parse config file '" ++ path.display ++ "': " ++ cause.message text
  | listen text => s!"Invalid listen address '{text}': {SocketAddress.syntaxMessage}"
  | pollInterval => "server.poll_interval_ms must be greater than zero"
  | logFile path cause => s!"Failed to open log file '{path.display}': {cause.message}"

/-- The messages of the causes, the nearest first. -/
def sources : SettingsError → List String
  | fileRead _ cause | logFile _ cause => [cause.message]
  | document _ text cause => [cause.message text]
  | listen _ => [SocketAddress.syntaxMessage]
  | pollInterval => []

end SettingsError

end LineLog
