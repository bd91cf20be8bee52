import LineLog.Connection.Basic

/-!
# What a step of a connection does

Every stage of a connection has its own steps.  Apart from a panic, which is
possible in every stage, a step leads to one stage only, given what it finds, and
only sending changes what was sent.
-/

namespace LineLog.Connection

inductive Moved (connection : Connection) : ConnectionInput → Connection → Prop where
  | read (bytes : Bytes) (result : Read)
      (hstage : connection.stage = .receiving (.waiting bytes)) :
      Moved connection (.read result)
        { connection with stage := .ofReceiving ((Receiving.waiting bytes).read result) }
  | looked (bytes : Bytes) (stopping : Bool)
      (hstage : connection.stage = .receiving (.silent bytes)) :
      Moved connection (.look stopping)
        { connection with stage := .ofReceiving ((Receiving.silent bytes).look stopping) }
  | appended (message : Bytes) (hstage : connection.stage = .appending message) :
      Moved connection (.append (.ok ())) { connection with stage := .copying message }
  | refused (message : Bytes) (cause : StoreError)
      (hstage : connection.stage = .appending message) :
      Moved connection (.append (.error cause))
        { connection with stage := .closing (.error (.append cause)) }
  | copied (message log : Bytes) (hstage : connection.stage = .copying message) :
      Moved connection (.copy log) { connection with stage := .sending message log log }
  | sent (message reply rest : Bytes) (answer : WriteAnswer)
      (hstage : connection.stage = .sending message reply rest) (hrest : rest ≠ []) :
      Moved connection (.send answer) (connection.send message reply rest answer)
  | flushed (message reply : Bytes) (hstage : connection.stage = .sending message reply []) :
      Moved connection .flush
        { connection with stage := .lingering (.replied message.length reply.length) }
  | left (outcome : Outcome) (hstage : connection.stage = .lingering outcome) :
      Moved connection .leave { connection with stage := .closing (.ok outcome) }
  | closed (result : Except ConnectionError Outcome)
      (hstage : connection.stage = .closing result) :
      Moved connection .close { connection with stage := .ended result }
  | panicked (hrunning : connection.stage.ending = none) :
      Moved connection .panic { connection with stage := .panicked }

variable {connection after : Connection}

theorem moved_of_next {input : ConnectionInput} (hnext : connection.next input = some after) :
    Moved connection input after := by
  unfold next at hnext
  dsimp only at hnext
  split at hnext
  · next bytes result hstage =>
    obtain rfl := Option.some.inj hnext
    exact .read bytes result hstage
  · next bytes stopping hstage =>
    obtain rfl := Option.some.inj hnext
    exact .looked bytes stopping hstage
  · next message hstage =>
    obtain rfl := Option.some.inj hnext
    exact .appended message hstage
  · next message cause hstage =>
    obtain rfl := Option.some.inj hnext
    exact .refused message cause hstage
  · next message log hstage =>
    obtain rfl := Option.some.inj hnext
    exact .copied message log hstage
  · next message reply byte rest answer hstage =>
    obtain rfl := Option.some.inj hnext
    exact .sent message reply (byte :: rest) answer hstage (List.cons_ne_nil byte rest)
  · next message reply hstage =>
    obtain rfl := Option.some.inj hnext
    exact .flushed message reply hstage
  · next outcome hstage =>
    obtain rfl := Option.some.inj hnext
    exact .left outcome hstage
  · next result hstage =>
    obtain rfl := Option.some.inj hnext
    exact .closed result hstage
  · cases hnext
  · cases hnext
  · next hended hpanicked =>
    obtain rfl := Option.some.inj hnext
    refine .panicked ?_
    cases hstage : connection.stage with
    | ended result => exact (hended result hstage).elim
    | panicked => exact (hpanicked hstage).elim
    | _ => rfl
  · cases hnext

/-- A task that has ended takes no step. -/
theorem ending_eq_none_of_next {input : ConnectionInput}
    (hnext : connection.next input = some after) : connection.stage.ending = none := by
  cases moved_of_next hnext with
  | panicked hrunning => exact hrunning
  | read _ _ hstage | looked _ _ hstage | appended _ hstage | refused _ _ hstage
  | copied _ _ hstage | sent _ _ _ _ hstage | flushed _ _ hstage | left _ hstage
  | closed _ hstage => rw [hstage]; rfl

end LineLog.Connection
