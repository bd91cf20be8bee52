import LineLog.Connection.Error
import LineLog.Connection.Receive
import LineLog.Ending
import LineLog.OpenFile

/-!
# Serving a connection

A connection is served once: its message is received and appended to the log, a
copy of the log is taken and sent back, and the connection is closed.  Each of
these may fail, and then the rest is left out.  After a reply the connection
lingers, so that bytes which the peer still sends do not destroy the reply.

The course is a machine: `next` takes it one step further, given what the step
found.  A step that does not fit the present stage is impossible.
-/

namespace LineLog

/-- How a connection ended that did not fail; the numbers count bytes. -/
inductive Outcome where
  | replied (message reply : Nat)
  /-- The peer closed before the end of its message. -/
  | disconnected (discarded : Nat)
  /-- The service stopped before the end of the message. -/
  | abandoned (discarded : Nat)
  deriving DecidableEq, Repr

inductive Stage where
  | receiving (state : Receiving)
  | appending (message : Bytes)
  /-- The message is appended; a copy of the log is taken next. -/
  | copying (message : Bytes)
  /-- `rest` of the reply has still to be sent. -/
  | sending (message reply rest : Bytes)
  | lingering (outcome : Outcome)
  | closing (result : Except ConnectionError Outcome)
  | ended (result : Except ConnectionError Outcome)
  | panicked

structure Connection where
  stage : Stage
  /-- Everything that was sent to the peer. -/
  sent : Bytes

/-- What a step of the connection finds. -/
inductive ConnectionInput where
  | read (result : Read)
  /-- The shutdown flag is looked at. -/
  | look (stopping : Bool)
  | append (result : Except StoreError Unit)
  | copy (log : Bytes)
  | send (answer : WriteAnswer)
  /-- The whole reply is sent. -/
  | flush
  /-- The peer has closed, or it has had enough time to take the reply. -/
  | leave
  | close
  | panic

/-- The stage that follows from what was received so far. -/
def Stage.ofReceiving : Receiving → Stage
  | .ended (.ok (.message message)) => .appending message
  | .ended (.ok (.closed discarded)) => .closing (.ok (.disconnected discarded))
  | .ended (.ok (.abandoned discarded)) => .closing (.ok (.abandoned discarded))
  | .ended (.error cause) => .closing (.error (.receive cause))
  | state => .receiving state

/-- Whether the task that serves the connection has ended, and how. -/
def Stage.ending : Stage → Option Ending
  | .ended _ => some .returned
  | .panicked => some .panicked
  | _ => none

namespace Connection

/-- A connection whose task has just been started. -/
def initial : Connection where
  stage := .receiving .initial
  sent := []

/-- Sends the rest of a reply as far as the system takes it. -/
def send (message reply rest : Bytes) (connection : Connection) : WriteAnswer → Connection
  | .accepted 0 => { connection with stage := .closing (.error (.send Os.Error.writeZero)) }
  | .accepted count =>
      { stage := .sending message reply (rest.drop count)
        sent := connection.sent ++ rest.take count }
  | .interrupted => connection
  | .refused cause => { connection with stage := .closing (.error (.send cause)) }

/-- One step of the connection, if it is possible. -/
def next (connection : Connection) (input : ConnectionInput) : Option Connection :=
  let move (stage : Stage) : Option Connection := some { connection with stage }
  match connection.stage, input with
  | .receiving (.waiting bytes), .read result =>
      move (.ofReceiving ((Receiving.waiting bytes).read result))
  | .receiving (.silent bytes), .look stopping =>
      move (.ofReceiving ((Receiving.silent bytes).look stopping))
  | .appending message, .append (.ok ()) => move (.copying message)
  | .appending _, .append (.error cause) => move (.closing (.error (.append cause)))
  | .copying message, .copy log => move (.sending message log log)
  | .sending message reply (byte :: rest), .send answer =>
      some (connection.send message reply (byte :: rest) answer)
  | .sending message reply [], .flush =>
      move (.lingering (.replied message.length reply.length))
  | .lingering outcome, .leave => move (.closing (.ok outcome))
  | .closing result, .close => move (.ended result)
  | .ended _, _ => none
  | .panicked, _ => none
  | _, .panic => move .panicked
  | _, _ => none

/-- The connection after all of `inputs`, if they are possible one after the other. -/
def run (connection : Connection) (inputs : List ConnectionInput) : Option Connection :=
  inputs.foldlM next connection

end Connection

end LineLog
