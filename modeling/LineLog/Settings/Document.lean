import LineLog.Path
import LineLog.Toml.Document
import LineLog.Toml.Reading

/-!
# The settings document

A document has up to four sections.  Whatever it does not say keeps its default,
whether the whole section is missing or only the key.
-/

namespace LineLog

structure ServerSection where
  listen : String
  backlog : Int
  pollIntervalMillis : Nat
  daemon : Bool
  deriving DecidableEq, Repr

structure StoreSection where
  path : Path
  deriving DecidableEq, Repr

structure TickerSection where
  intervalSeconds : Nat
  deriving DecidableEq, Repr

structure LoggingSection where
  level : String
  file : Option Path
  deriving DecidableEq, Repr

structure SettingsDocument where
  server : ServerSection
  store : StoreSection
  ticker : TickerSection
  logging : LoggingSection
  deriving DecidableEq, Repr

namespace SettingsDocument

def defaultServer : ServerSection where
  listen := "0.0.0.0:9000"
  backlog := 10
  pollIntervalMillis := 100
  daemon := false

def defaultStore : StoreSection where
  path := Bytes.ofString "/var/tmp/aesdsocketdata"

def defaultTicker : TickerSection where
  intervalSeconds := 10

def defaultLogging : LoggingSection where
  level := "info"
  file := none

/-- What a document says that says nothing. -/
def default : SettingsDocument where
  server := defaultServer
  store := defaultStore
  ticker := defaultTicker
  logging := defaultLogging

open Toml

def readPath : Reader Path := fun value =>
  (readText "path string" value).map Bytes.ofString

/-- An integer of 64 bits without a sign. -/
def readUnsigned : Reader Nat := fun value =>
  (readInteger "u64" 0 (Int.pow 2 64 - 1) value).map Int.toNat

/-- An integer of 32 bits with a sign. -/
def readSigned : Reader Int :=
  readInteger "i32" (-Int.pow 2 31) (Int.pow 2 31 - 1)

def serverShape : Shape ServerSection where
  title := "ServerConfig"
  fields := [
    ⟨"listen", fun value settings =>
      (readText "a string" value).map fun listen => { settings with listen }⟩,
    ⟨"backlog", fun value settings =>
      (readSigned value).map fun backlog => { settings with backlog }⟩,
    ⟨"poll_interval_ms", fun value settings =>
      (readUnsigned value).map fun pollIntervalMillis =>
        { settings with pollIntervalMillis }⟩,
    ⟨"daemon", fun value settings =>
      (readBoolean value).map fun daemon => { settings with daemon }⟩]

def storeShape : Shape StoreSection where
  title := "StoreConfig"
  fields := [
    ⟨"path", fun value settings =>
      (readPath value).map fun path => { settings with path }⟩]

def tickerShape : Shape TickerSection where
  title := "TickerConfig"
  fields := [
    ⟨"interval_secs", fun value settings =>
      (readUnsigned value).map fun intervalSeconds => { settings with intervalSeconds }⟩]

def loggingShape : Shape LoggingSection where
  title := "LoggingConfig"
  fields := [
    ⟨"level", fun value settings =>
      (readText "a string" value).map fun level => { settings with level }⟩,
    ⟨"file", fun value settings =>
      (readPath value).map fun file => { settings with file := some file }⟩]

def documentShape : Shape SettingsDocument where
  title := "TomlConfig"
  fields := [
    ⟨"server", fun value document =>
      (serverShape.read defaultServer value).map fun server => { document with server }⟩,
    ⟨"store", fun value document =>
      (storeShape.read defaultStore value).map fun store => { document with store }⟩,
    ⟨"ticker", fun value document =>
      (tickerShape.read defaultTicker value).map fun ticker => { document with ticker }⟩,
    ⟨"logging", fun value document =>
      (loggingShape.read defaultLogging value).map fun logging =>
        { document with logging }⟩]

/-- Reads the settings from the entries of a document. -/
def ofEntries (entries : Entries) : Except Mismatch SettingsDocument :=
  documentShape.takeEntries default entries

end SettingsDocument

end LineLog
