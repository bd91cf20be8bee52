import LineLog.Proofs.Client
import LineLog.Proofs.Line

/-!
# What a connection has heard

Until the first newline is read, what was read and what is still queued are
together everything that the client has sent.  Hence the message of a connection is
the first line of what the client has sent, no matter how it was cut into reads and
what else arrives.
-/

namespace LineLog

def Read.bytes : Read → Bytes
  | .chunk bytes => bytes
  | .endOfStream | .timedOut | .interrupted | .failed _ => []

/-- The bytes that a step of a connection takes out of the queue. -/
def ConnectionInput.taken : ConnectionInput → Bytes
  | .read result => result.bytes
  | _ => []

theorem ClientStep.taken_eq_nil {stopping : Bool} {log : Log} {step : ClientStep}
    {input : ConnectionInput} (hinput : step.input? stopping log = some input) :
    input.taken = [] := by
  cases step <;> first | cases hinput; rfl | cases hinput

/-- How what has arrived and what is still unread fit a stage. -/
def Stage.Hears (arrived unread : Bytes) : Stage → Prop
  | .receiving (.waiting bytes) | .receiving (.silent bytes) =>
      arrived = bytes ++ unread ∧ newline ∉ bytes
  | .receiving (.ended _) => False
  | .appending message | .copying message | .sending message _ _ =>
      arrived.line? = some message
  | .lingering _ | .closing _ | .ended _ | .panicked => True

namespace Stage.Hears

variable {stage : Stage} {arrived unread : Bytes}

theorem arrive (hhears : stage.Hears arrived unread) (bytes : Bytes) :
    stage.Hears (arrived ++ bytes) (unread ++ bytes) := by
  have hreceiving {front : Bytes} (hfront : arrived = front ++ unread ∧ newline ∉ front) :
      arrived ++ bytes = front ++ (unread ++ bytes) ∧ newline ∉ front :=
    ⟨by rw [hfront.1, List.append_assoc], hfront.2⟩
  cases stage with
  | receiving state =>
      cases state with
      | waiting | silent => exact hreceiving hhears
      | ended => exact hhears.elim
  | appending | copying | sending => exact Bytes.line?_append hhears bytes
  | lingering | closing | ended | panicked => trivial

/-- A read moves bytes from the queue to what was read, or it finds the end of the
message. -/
theorem read {bytes rest : Bytes} (hbytes : newline ∉ bytes) (result : Read) :
    (Stage.ofReceiving ((Receiving.waiting bytes).read result)).Hears
      (bytes ++ (result.bytes ++ rest)) rest := by
  cases result with
  | chunk chunk =>
      simp only [Receiving.read, Read.bytes]
      cases hline : chunk.line? with
      | some line => exact Bytes.line?_append_of_not_mem hbytes (Bytes.line?_append hline rest)
      | none =>
          have hchunk : newline ∉ chunk := Bytes.line?_eq_none_iff.mp hline
          exact ⟨(List.append_assoc ..).symm, List.not_mem_append hbytes hchunk⟩
  | timedOut | interrupted => exact ⟨rfl, hbytes⟩
  | endOfStream | failed => trivial

theorem next {connection after : Connection} {input : ConnectionInput}
    (hhears : connection.stage.Hears arrived (input.taken ++ unread))
    (hnext : connection.next input = some after) : after.stage.Hears arrived unread := by
  cases Connection.moved_of_next hnext with
  | read bytes result hstage =>
      rw [hstage] at hhears
      obtain ⟨rfl, hbytes⟩ := hhears
      exact read hbytes result
  | looked bytes stopping hstage =>
      rw [hstage] at hhears
      cases stopping with
      | true => trivial
      | false => exact hhears
  | appended message hstage | copied message log hstage =>
      rw [hstage] at hhears
      exact hhears
  | sent message reply rest answer hstage =>
      rw [hstage] at hhears
      unfold Connection.send
      split
      · trivial
      · exact hhears
      · rw [hstage]
        exact hhears
      · trivial
  | refused | flushed | left | closed | panicked => trivial

end Stage.Hears

namespace Client

/-- The message of the client, as far as there is one, is the first line of what it has
sent. -/
def Heard (client : Client) : Prop :=
  match client.connection with
  | none => client.unread = client.arrived
  | some connection => connection.stage.Hears client.arrived client.unread

namespace Heard

variable {client after : Client}

theorem hears {connection : Connection} (hheard : client.Heard)
    (hconnection : client.connection = some connection) :
    connection.stage.Hears client.arrived client.unread := by
  unfold Heard at hheard
  rwa [hconnection] at hheard

theorem arrive (hheard : client.Heard) (bytes : Bytes) : (client.arrive bytes).Heard := by
  unfold Heard at hheard ⊢
  simp only [Client.arrive]
  cases hconnection : client.connection with
  | none =>
      rw [hconnection] at hheard
      rw [hheard]
  | some connection =>
      rw [hconnection] at hheard
      exact hheard.arrive bytes

/-- A task that has just been started has heard nothing. -/
theorem start (hheard : client.Heard) (hconnection : client.connection = none) :
    Heard { client with connection := some .initial } := by
  unfold Heard at hheard
  rw [hconnection] at hheard
  exact ⟨hheard.symm, List.not_mem_nil⟩

theorem enter {input : ConnectionInput} {unread : Bytes} (hheard : client.Heard)
    (hunread : client.unread = input.taken ++ unread)
    (henter : { client with unread }.enter input = some after) : after.Heard := by
  obtain ⟨connection, moved, hconnection, hnext, rfl⟩ := exists_of_enter henter
  unfold Heard at hheard
  rw [hconnection, hunread] at hheard
  exact Stage.Hears.next hheard hnext

theorem act {path : Path} {stopping : Bool} {step : ClientStep} {log final : Log}
    (hheard : client.Heard) (hact : client.act path stopping step log = some (after, final)) :
    after.Heard := by
  cases acted_of_act hact with
  | took count after hoffers henter =>
      exact hheard.enter (List.take_append_drop count client.unread).symm henter
  | appended obstacles message after hmessage henter => exact hheard.enter rfl henter
  | discarded count outcome sent hconnection =>
      unfold Heard
      rw [hconnection]
      trivial
  | entered step input after hinput hend htime henter =>
      refine hheard.enter ?_ henter
      rw [ClientStep.taken_eq_nil hinput]
      rfl

/-- The message that a task is about to append is the first line that the client has
sent. -/
theorem line?_eq {message : Bytes} (hheard : client.Heard)
    (hmessage : client.message? = some message) : client.arrived.line? = some message := by
  unfold message? at hmessage
  split at hmessage
  · next bytes sent hconnection =>
    obtain rfl := Option.some.inj hmessage
    unfold Heard at hheard
    rw [hconnection] at hheard
    exact hheard
  · cases hmessage

end Heard

end Client

end LineLog
