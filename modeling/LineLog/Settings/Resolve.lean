import LineLog.CommandLine.Parse
import LineLog.Host
import LineLog.Settings.Basic
import LineLog.Settings.Document
import LineLog.Settings.Error
import LineLog.Toml.Reserved

/-!
# Resolving the settings

What the command line says comes before what the document says, and that comes
before the defaults.  The document is read and understood as a whole before
anything is merged.  The address is looked at only after that, and then only the
one that counts.
-/

namespace LineLog.Settings

open CommandLine

/-- What is wrong with a document that does not match: the mismatch itself, or its
form as a whole if a value in it is not sound. -/
def documentError (entries : Toml.Entries) (cause : Toml.Mismatch) : DocumentError :=
  if Toml.areSoundEntries entries then .mismatch cause else .malformed

/-- Reads the settings document from the text of a file. -/
def documentOf (path : Path) (text : String) : Except SettingsError SettingsDocument :=
  match Toml.parse? text with
  | none => .error (.document path text .malformed)
  | some entries =>
      (SettingsDocument.ofEntries entries).mapError fun cause =>
        .document path text (documentError entries cause)

/-- Reads the settings document from what the system gives for a file. -/
def documentFrom (path : Path) (contents : Except Os.Error Bytes) :
    Except SettingsError SettingsDocument :=
  match contents with
  | .error cause => .error (.fileRead path cause)
  | .ok bytes =>
      match bytes.text? with
      | none => .error (.fileRead path Os.Error.notUtf8)
      | some text => documentOf path text

/-- The document that the command line names, or the defaults. -/
def load (arguments : Arguments) (host : Host) : Except SettingsError SettingsDocument :=
  match arguments.config with
  | none => .ok .default
  | some path => documentFrom path (host.contentsAt path)

/-- Merges the command line over the document. -/
def merge (arguments : Arguments) (document : SettingsDocument) :
    Except SettingsError Settings :=
  let text := arguments.listen.getD document.server.listen
  match SocketAddress.parse? text with
  | none => .error (.listen text)
  | some listen =>
      if document.server.pollIntervalMillis = 0 then .error .pollInterval
      else
        let seconds := arguments.timestampInterval.getD document.ticker.intervalSeconds
        .ok
          { listen
            backlog := document.server.backlog
            pollInterval := .ofMillis document.server.pollIntervalMillis
            dataFile := arguments.dataFile.getD document.store.path
            timestampInterval := if 0 < seconds then some (.ofSeconds seconds) else none
            daemon := arguments.daemon || document.server.daemon
            logLevel := arguments.logLevel.getD document.logging.level
            logFile := arguments.logFile.orElse fun _ => document.logging.file }

/-- The settings that a command line leads to. -/
def resolve (arguments : Arguments) (host : Host) : Except SettingsError Settings := do
  merge arguments (← load arguments host)

/-- Opens the log file for appending, if there is one. -/
def openLogFile (settings : Settings) (host : Host) :
    Except SettingsError (Option (Host × Handle)) :=
  match settings.logFile with
  | none => .ok none
  | some path => (host.openForWriting .append path |>.map some).mapError (.logFile path)

end LineLog.Settings
