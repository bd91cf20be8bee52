import LineLog.Client
import LineLog.Proofs.Connection

/-!
# What a step around a client does

The task that serves a client takes steps of four kinds: it reads queued bytes,
it appends the message to the log, it forgets bytes that come after the reply,
and every other step is the connection's own.  No step changes what has arrived.
-/

namespace LineLog

/-- What a step of the task makes the connection find, apart from the steps that
need more than the flag and the log. -/
def ClientStep.input? (stopping : Bool) (log : Log) : ClientStep → Option ConnectionInput
  | .endOfStream => some (.read .endOfStream)
  | .timeOut => some (.read .timedOut)
  | .interrupt => some (.read .interrupted)
  | .fail error => some (.read (.failed error))
  | .look => some (.look stopping)
  | .copy => some (.copy log.snapshot)
  | .send answer => some (.send answer)
  | .flush => some .flush
  | .leave => some .leave
  | .close => some .close
  | .panic => some .panic
  | .take _ | .append _ | .discard _ => none

namespace Client

variable {path : Path} {stopping : Bool} {client after : Client} {log final : Log}

theorem exists_of_enter {input : ConnectionInput} (henter : client.enter input = some after) :
    ∃ connection moved, client.connection = some connection ∧
      connection.next input = some moved ∧ after = { client with connection := some moved } := by
  obtain ⟨connection, hconnection, hrest⟩ := Option.bind_eq_some_iff.mp henter
  obtain ⟨moved, hnext, hafter⟩ := Option.bind_eq_some_iff.mp hrest
  exact ⟨connection, moved, hconnection, hnext, (Option.some.inj hafter).symm⟩

theorem enter_of_next {connection moved : Connection} {input : ConnectionInput}
    (hconnection : client.connection = some connection)
    (hnext : connection.next input = some moved) :
    client.enter input = some { client with connection := some moved } := by
  simp only [enter, hconnection, Option.bind_eq_bind, Option.bind_some, hnext]

inductive Acted (path : Path) (stopping : Bool) (client : Client) (log : Log) :
    ClientStep → Client → Log → Prop where
  | took (count : Nat) (after : Client) (hoffers : client.offers count)
      (henter : { client with unread := client.unread.drop count }.enter
        (.read (.chunk (client.unread.take count))) = some after) :
      Acted path stopping client log (.take count) after log
  | appended (obstacles : Obstacles) (message : Bytes) (after : Client)
      (hmessage : client.message? = some message)
      (henter : client.enter (.append
        ((log.append obstacles message).2.mapError (.ofAppend path))) = some after) :
      Acted path stopping client log (.append obstacles) after (log.append obstacles message).1
  | discarded (count : Nat) (outcome : Outcome) (sent : Bytes)
      (hconnection : client.connection = some ⟨.lingering outcome, sent⟩)
      (hoffers : client.offers count) :
      Acted path stopping client log (.discard count)
        { client with unread := client.unread.drop count } log
  | entered (step : ClientStep) (input : ConnectionInput) (after : Client)
      (hinput : step.input? stopping log = some input)
      (hend : step = .endOfStream → client.finished ∧ client.unread = [])
      (htime : step = .timeOut → client.unread = [])
      (henter : client.enter input = some after) :
      Acted path stopping client log step after log

theorem acted_of_act {step : ClientStep}
    (hact : client.act path stopping step log = some (after, final)) :
    Acted path stopping client log step after final := by
  have hmap {client' : Client} {input : ConnectionInput}
      (henter : (client'.enter input).map (·, log) = some (after, final)) :
      client'.enter input = some after ∧ final = log := by
    obtain ⟨entered, hentered, hsame⟩ := Option.map_eq_some_iff.mp henter
    obtain ⟨rfl, rfl⟩ := Prod.mk.inj hsame
    exact ⟨hentered, rfl⟩
  cases step with
  | take count =>
      obtain ⟨hoffers, hrest⟩ := Option.ite_none_right_eq_some.mp hact
      obtain ⟨henter, rfl⟩ := hmap hrest
      exact .took count after hoffers henter
  | append obstacles =>
      obtain ⟨message, hmessage, hrest⟩ := Option.bind_eq_some_iff.mp hact
      obtain ⟨entered, henter, hsome⟩ := Option.bind_eq_some_iff.mp hrest
      obtain ⟨rfl, rfl⟩ := Prod.mk.inj (Option.some.inj hsome)
      exact .appended obstacles message entered hmessage henter
  | discard count =>
      unfold act at hact
      dsimp only at hact
      split at hact
      · next outcome sent hconnection =>
        obtain ⟨hoffers, hsome⟩ := Option.ite_none_right_eq_some.mp hact
        obtain ⟨rfl, rfl⟩ := Prod.mk.inj (Option.some.inj hsome)
        exact .discarded count outcome sent hconnection hoffers
      · cases hact
  | endOfStream =>
      obtain ⟨hready, hrest⟩ := Option.ite_none_right_eq_some.mp hact
      obtain ⟨hfinished, hempty⟩ := Bool.and_eq_true_iff.mp hready
      obtain ⟨henter, rfl⟩ := hmap hrest
      exact .entered _ _ after rfl (fun _ => ⟨hfinished, List.isEmpty_iff.mp hempty⟩) nofun henter
  | timeOut =>
      obtain ⟨hempty, hrest⟩ := Option.ite_none_right_eq_some.mp hact
      obtain ⟨henter, rfl⟩ := hmap hrest
      exact .entered _ _ after rfl nofun (fun _ => List.isEmpty_iff.mp hempty) henter
  | interrupt | fail | look | copy | send | flush | leave | close | panic =>
      obtain ⟨henter, rfl⟩ := hmap hact
      exact .entered _ _ after rfl nofun nofun henter

/-- Only an append changes the log. -/
theorem log_eq_of_act {step : ClientStep}
    (hact : client.act path stopping step log = some (after, final))
    (hquiet : ∀ obstacles, step ≠ .append obstacles) : final = log := by
  cases acted_of_act hact with
  | took | discarded | entered => rfl
  | appended obstacles => exact absurd rfl (hquiet obstacles)

/-- No step of the task changes what the client has done. -/
theorem frame_of_act {step : ClientStep}
    (hact : client.act path stopping step log = some (after, final)) :
    after.arrived = client.arrived ∧ after.finished = client.finished ∧
      after.accepted = client.accepted := by
  cases acted_of_act hact with
  | discarded => exact ⟨rfl, rfl, rfl⟩
  | took _ _ _ henter | appended _ _ _ _ henter | entered _ _ _ _ _ _ henter =>
      obtain ⟨connection, moved, -, -, rfl⟩ := exists_of_enter henter
      exact ⟨rfl, rfl, rfl⟩

theorem act_append {obstacles : Obstacles} {message : Bytes}
    (hmessage : client.message? = some message)
    (henter : client.enter (.append
      ((log.append obstacles message).2.mapError (.ofAppend path))) = some after) :
    client.act path stopping (.append obstacles) log =
      some (after, (log.append obstacles message).1) :=
  Option.bind_eq_some_iff.mpr ⟨message, hmessage,
    Option.bind_eq_some_iff.mpr ⟨after, henter, rfl⟩⟩

/-- A task that takes a step has not ended. -/
theorem isServed_of_act {step : ClientStep}
    (hact : client.act path stopping step log = some (after, final)) : client.isServed := by
  have hserved {connection : Connection} (hconnection : client.connection = some connection)
      (hrunning : connection.stage.ending = none) : client.isServed := by
    simp only [isServed, hconnection, Option.any_some, hrunning, Option.isNone_none]
  cases acted_of_act hact with
  | discarded _ outcome sent hconnection => exact hserved hconnection rfl
  | took _ _ _ henter | appended _ _ _ _ henter | entered _ _ _ _ _ _ henter =>
      obtain ⟨connection, moved, hconnection, hnext, -⟩ := exists_of_enter henter
      exact hserved hconnection (Connection.ending_eq_none_of_next hnext)

theorem isSome_connection_of_isServed (hserved : client.isServed) : client.connection.isSome := by
  cases hconnection : client.connection with
  | some connection => rfl
  | none =>
      rw [isServed, hconnection] at hserved
      cases hserved

theorem isServed_of_message {message : Bytes} (hmessage : client.message? = some message) :
    client.isServed := by
  unfold message? at hmessage
  split at hmessage
  · next bytes sent hconnection => simp only [isServed, hconnection, Option.any_some]; rfl
  · cases hmessage

/-- A task that has ended does not serve. -/
theorem isServed_of_ending {client : Client} (hended : client.ending.isSome) :
    client.isServed = false := by
  unfold ending at hended
  unfold isServed
  cases hconnection : client.connection with
  | none => rfl
  | some connection =>
      rw [hconnection, Option.bind_some] at hended
      simpa using hended

end Client

end LineLog
