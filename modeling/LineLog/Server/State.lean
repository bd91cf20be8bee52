import LineLog.Client
import LineLog.Acceptor.Phase
import LineLog.Settings.Basic
import LineLog.Threads
import LineLog.Ticker.Phase
import LineLog.Timestamp.Basic

/-!
# The state of a server

The main thread starts the server, runs the accept loop, and drains the service.
Meanwhile clients send bytes, tasks serve their connections, the ticker appends
records, and anybody may request shutdown.  All of them share one log.  The
threads take turns in any order, and a call on the log is one step, as calls
behind a lock are.

What happened is kept as far as it matters: who appended which record, and every
attempt to delete the file of the log.
-/

namespace LineLog

/-- Where the main thread is. -/
inductive ServerPhase where
  | binding
  | openingPoller
  | detaching
  | blockingSignals
  | startingListener
  | startingTicker
  | accepting (phase : AcceptPhase Nat)
  /-- The accept loop has ended with `accepted`, and shutdown is requested next. -/
  | triggering (accepted : Except ServerError Unit)
  | joiningTicker (accepted : Except ServerError Unit)
  | joiningWorkers (accepted : Except ServerError Unit) (report : DrainReport)
  | removing (accepted : Except ServerError Unit) (report : DrainReport)
  /-- The server could not be started, and the log is removed next. -/
  | discarding (error : ServerError)
  | ended (result : Except ServerError Unit)

/-- Who appends a record. -/
inductive Author where
  | client (number : Nat)
  | ticker
  deriving DecidableEq, Repr

/-- A record that was appended. -/
structure Entry where
  author : Author
  record : Bytes
  deriving DecidableEq, Repr

structure Server where
  settings : Settings
  /-- The resolved path of the file of the log. -/
  path : Path
  phase : ServerPhase
  /-- The shutdown flag. -/
  stopping : Bool
  log : Log
  /-- The ticker, once it has been started. -/
  ticker : Option TickerPhase
  clients : Threads Client
  /-- The clients whose workers have not been joined. -/
  registered : List Nat
  /-- The records in the order in which they were appended. -/
  entries : List Entry
  /-- The attempts to delete the file, each with the reason why it failed. -/
  deletions : List (Option Os.Error)

/-- What the ticker does next. -/
inductive TickStep where
  | schedule
  /-- The wait is over and the flag is looked at. -/
  | look
  /-- Appends the record of an instant while the system behaves as `obstacles`
  say. -/
  | append (obstacles : Obstacles) (instant : Instant) (offset : Int)
  | panic

inductive ServerEvent where
  /-- A client sends bytes. -/
  | arrive (client : Nat) (bytes : Bytes)
  /-- A client sends nothing more. -/
  | finish (client : Nat)
  /-- Shutdown is requested. -/
  | trigger
  /-- The main thread takes its next step outside the accept loop; `fault` makes
  it fail if it can. -/
  | main (fault : Option Os.Error)
  /-- The main thread takes a step of the accept loop. -/
  | accept (step : AcceptStep Nat)
  /-- A sweep finds that the worker of a client has ended and joins it. -/
  | reap (client : Nat)
  | serve (client : Nat) (step : ClientStep)
  | tick (step : TickStep)

namespace Server

/-- A server that is about to be started over a log. -/
def initial (settings : Settings) (path : Path) (log : Log) : Server where
  settings
  path
  phase := .binding
  stopping := false
  log
  ticker := none
  clients := .all .initial
  registered := []
  entries := []
  deletions := []

/-- Whether the ticker runs. -/
def tickerRuns (server : Server) : Bool :=
  match server.ticker with
  | none | some (.ended _) => false
  | some _ => true

/-- Whether a task runs that may use the log. -/
def Busy (server : Server) : Prop :=
  server.tickerRuns ∨ ∃ number, (server.clients.get number).isServed

/-- The records one after the other. -/
def records (server : Server) : Bytes :=
  server.entries.flatMap (·.record)

/-- What the main thread returned, once it has. -/
def result? (server : Server) : Option (Except ServerError Unit) :=
  match server.phase with
  | .ended result => some result
  | _ => none

end Server

end LineLog
