import LineLog.Connection.Basic
import LineLog.Log

/-!
# Clients and the log

A client sends bytes, which queue up until the task that serves its connection
reads them.  A read brings bytes as long as some are queued and times out only
when none are.  Of all the steps of a connection only one changes the log, and
only one copies it.
-/

namespace LineLog

structure Client where
  /-- Everything that the client has sent. -/
  arrived : Bytes
  /-- What has not been read yet. -/
  unread : Bytes
  /-- The client sends nothing more. -/
  finished : Bool
  /-- The connection was taken from the queue of the system. -/
  accepted : Bool
  /-- The connection, once a task serves it. -/
  connection : Option Connection

/-- What the task that serves a connection does next. -/
inductive ClientStep where
  /-- Reads `count` queued bytes. -/
  | take (count : Nat)
  | endOfStream
  | timeOut
  | interrupt
  | fail (error : Os.Error)
  | look
  /-- Appends the message while the system behaves as `obstacles` say. -/
  | append (obstacles : Obstacles)
  | copy
  | send (answer : WriteAnswer)
  | flush
  /-- Reads `count` queued bytes after the reply and forgets them. -/
  | discard (count : Nat)
  | leave
  | close
  | panic

namespace Client

/-- A client that has not sent anything and that nobody serves. -/
def initial : Client where
  arrived := []
  unread := []
  finished := false
  accepted := false
  connection := none

def arrive (bytes : Bytes) (client : Client) : Client :=
  { client with arrived := client.arrived ++ bytes, unread := client.unread ++ bytes }

/-- Whether a read can bring `count` bytes. -/
def offers (client : Client) (count : Nat) : Bool :=
  0 < count && count ≤ Read.maxChunk && count ≤ client.unread.length

/-- What was received of the message that a connection is about to append. -/
def message? (client : Client) : Option Bytes :=
  match client.connection with
  | some ⟨.appending message, _⟩ => some message
  | _ => none

/-- The connection takes a step. -/
def enter (input : ConnectionInput) (client : Client) : Option Client := do
  let connection ← (← client.connection).next input
  some { client with connection := some connection }

/-- A step of the task that serves the client, on the log and with the shutdown
flag as it is, if the step is possible. -/
def act (path : Path) (stopping : Bool) (step : ClientStep) (client : Client) (log : Log) :
    Option (Client × Log) :=
  let enter (input : ConnectionInput) (client : Client) : Option (Client × Log) :=
    (client.enter input).map (·, log)
  match step with
  | .take count =>
      if client.offers count then
        enter (.read (.chunk (client.unread.take count)))
          { client with unread := client.unread.drop count }
      else none
  | .endOfStream =>
      if client.finished && client.unread.isEmpty then enter (.read .endOfStream) client else none
  | .timeOut => if client.unread.isEmpty then enter (.read .timedOut) client else none
  | .interrupt => enter (.read .interrupted) client
  | .fail error => enter (.read (.failed error)) client
  | .look => enter (.look stopping) client
  | .append obstacles => do
      let message ← client.message?
      let (log, result) := log.append obstacles message
      let client ← client.enter (.append (result.mapError (.ofAppend path)))
      some (client, log)
  | .copy => enter (.copy log.snapshot) client
  | .send answer => enter (.send answer) client
  | .flush => enter .flush client
  | .discard count =>
      match client.connection with
      | some ⟨.lingering _, _⟩ =>
          if client.offers count then
            some ({ client with unread := client.unread.drop count }, log)
          else none
      | _ => none
  | .leave => enter .leave client
  | .close => enter .close client
  | .panic => enter .panic client

/-- How the task that serves the client has ended, if it has. -/
def ending (client : Client) : Option Ending :=
  client.connection.bind (·.stage.ending)

/-- Whether a task serves the client and has not ended. -/
def isServed (client : Client) : Bool :=
  client.connection.any (·.stage.ending.isNone)

/-- Everything that was sent to the client. -/
def received (client : Client) : Bytes :=
  match client.connection with
  | some connection => connection.sent
  | none => []

end Client

/-- What happens around one client: it sends, its task takes a step with the
shutdown flag as given, or others bring the log into another state. -/
inductive ClientEvent where
  | arrive (bytes : Bytes)
  | finish
  | act (stopping : Bool) (step : ClientStep)
  | others (log : Log)

namespace Client

/-- One event around a client; a client that has finished sends no more. -/
def next (path : Path) (state : Client × Log) : ClientEvent → Option (Client × Log)
  | .arrive bytes =>
      if state.1.finished then none else some (state.1.arrive bytes, state.2)
  | .finish => some ({ state.1 with finished := true }, state.2)
  | .act stopping step => state.1.act path stopping step state.2
  | .others log => some (state.1, log)

/-- A client and the log after all of `events`, if they are possible one after
the other. -/
def run (path : Path) (state : Client × Log) (events : List ClientEvent) :
    Option (Client × Log) :=
  events.foldlM (next path) state

end Client

end LineLog
