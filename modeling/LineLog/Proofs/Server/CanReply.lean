import LineLog.Proofs.Server.Step
import LineLog.Proofs.Line

/-!
# Going on to a reply

A worker needs nobody to go on.  As soon as the newline of its message is queued and as
long as the log is open, its own steps alone can bring it to the end of its reply: a read
brings a byte at least of what is queued, an append without obstacles succeeds, and the
system may take the reply whole.
-/

namespace LineLog.Server

variable {server : Server} {number : Nat}

/-- Steps of the worker alone lead from here to a reply. -/
def CanReply (server : Server) (number : Nat) : Prop :=
  ∃ (steps : List ClientStep) (final : Server) (words length : Nat) (sent : Bytes),
    server.run (steps.map (.serve number)) = some final ∧
    (final.clients.get number).connection = some ⟨.ended (.ok (.replied words length)), sent⟩

namespace CanReply

variable {sent : Bytes}

/-- If a step of the worker leads to where it can reply, it can reply from here. -/
theorem of_act {step : ClientStep} {client : Client} {log : Log}
    (hact : (server.clients.get number).act server.path server.stopping step server.log =
      some (client, log))
    (hafter : ∀ after : Server, after.clients.get number = client → after.log = log →
      after.CanReply number) : server.CanReply number := by
  have hnext : ∃ after, server.next (.serve number step) = some after ∧
      after.clients.get number = client ∧ after.log = log :=
    ⟨_, Option.bind_eq_some_iff.mpr ⟨_, hact, rfl⟩, Threads.get_set_self .., rfl⟩
  obtain ⟨after, hnext, hclient, hlog⟩ := hnext
  obtain ⟨steps, final, words, length, sent, hrun, hended⟩ := hafter after hclient hlog
  exact ⟨step :: steps, final, words, length, sent,
    Option.bind_eq_some_iff.mpr ⟨after, hnext, hrun⟩, hended⟩

/-- A step of the connection that is none of the log's. -/
theorem of_next (step : ClientStep) {input : ConnectionInput} {connection moved : Connection}
    (hact : (server.clients.get number).act server.path server.stopping step server.log =
      ((server.clients.get number).enter input).map (·, server.log))
    (hconnection : (server.clients.get number).connection = some connection)
    (hmoved : connection.next input = some moved)
    (hafter : ∀ after : Server,
      after.clients.get number = { server.clients.get number with connection := some moved } →
      after.log = server.log → after.CanReply number) : server.CanReply number := by
  refine of_act (hact.trans ?_) hafter
  rw [Client.enter_of_next hconnection hmoved]
  rfl

theorem of_closing {words length : Nat} (hconnection : (server.clients.get number).connection =
      some ⟨.closing (.ok (.replied words length)), sent⟩) : server.CanReply number := by
  refine of_next .close rfl hconnection rfl fun after hclient _ => ?_
  exact ⟨[], after, words, length, sent, rfl, by rw [hclient]⟩

theorem of_lingering {words length : Nat} (hconnection : (server.clients.get number).connection =
      some ⟨.lingering (.replied words length), sent⟩) : server.CanReply number :=
  of_next .leave rfl hconnection rfl fun _ hclient _ => of_closing (by rw [hclient])

/-- Sending goes on until nothing is left, whatever was sent before. -/
theorem of_sending {message reply rest : Bytes}
    (hconnection : (server.clients.get number).connection =
      some ⟨.sending message reply rest, sent⟩) : server.CanReply number := by
  have hflush {server : Server} (sent : Bytes)
      (hconnection : (server.clients.get number).connection =
        some ⟨.sending message reply [], sent⟩) : server.CanReply number :=
    of_next .flush rfl hconnection rfl fun _ hclient _ => of_lingering (by rw [hclient])
  cases rest with
  | nil => exact hflush sent hconnection
  | cons byte rest =>
      refine of_next (.send (.accepted (rest.length + 1))) rfl hconnection rfl
        fun _ hclient _ => hflush (sent ++ byte :: rest) ?_
      rw [hclient]
      simp [Connection.send]

theorem of_copying {message : Bytes} (hconnection : (server.clients.get number).connection =
      some ⟨.copying message, sent⟩) : server.CanReply number :=
  of_next .copy rfl hconnection rfl fun _ hclient _ => of_sending (by rw [hclient])

/-- While the log is open nothing need keep an append from succeeding. -/
theorem of_appending {message : Bytes} (hopen : server.log.file.isSome)
    (hconnection : (server.clients.get number).connection = some ⟨.appending message, sent⟩) :
    server.CanReply number := by
  have hmessage : (server.clients.get number).message? = some message := by
    rw [Client.message?, hconnection]
  have hmoved : Connection.next ⟨.appending message, sent⟩ (.append
      ((server.log.append .none message).2.mapError (.ofAppend server.path))) =
      some ⟨.copying message, sent⟩ := by
    rw [Log.append_none message hopen]
    rfl
  refine of_act (Client.act_append hmessage (Client.enter_of_next hconnection hmoved))
    fun after hclient _ => of_copying (by rw [hclient])

/-- Reading goes on until the newline is read that is still queued. -/
theorem of_waiting {bytes : Bytes} (hopen : server.log.file.isSome)
    (hnewline : newline ∈ (server.clients.get number).unread)
    (hconnection : (server.clients.get number).connection =
      some ⟨.receiving (.waiting bytes), sent⟩) : server.CanReply number := by
  generalize hlength : (server.clients.get number).unread.length = length
  induction length using Nat.strongRecOn generalizing server bytes with
  | ind length ih =>
      have hsome : 0 < length := hlength ▸ List.length_pos_of_mem hnewline
      let count := min Read.maxChunk length
      have hcount : 0 < count := Nat.lt_min.mpr ⟨by decide, hsome⟩
      have hoffers : (server.clients.get number).offers count := by
        simp only [Client.offers, hlength, Bool.and_eq_true, decide_eq_true_eq]
        exact ⟨⟨hcount, Nat.min_le_left _ _⟩, Nat.min_le_right _ _⟩
      have hact (moved : Connection) (hmoved : Connection.next ⟨.receiving (.waiting bytes), sent⟩
          (.read (.chunk ((server.clients.get number).unread.take count))) = some moved) :
          (server.clients.get number).act server.path server.stopping (.take count) server.log =
            some ({ server.clients.get number with
              unread := (server.clients.get number).unread.drop count
              connection := some moved }, server.log) := by
        let rest : Client := { server.clients.get number with
          unread := (server.clients.get number).unread.drop count }
        have henter : rest.enter _ = _ := Client.enter_of_next hconnection hmoved
        simp only [Client.act, hoffers, if_true]
        rw [henter]
        rfl
      cases hline : Bytes.line? ((server.clients.get number).unread.take count) with
      | some line =>
          refine of_act (hact ⟨.appending (bytes ++ line), sent⟩ ?_) fun after hclient hlog => ?_
          · simp [Connection.next, Receiving.read, hline, Stage.ofReceiving]
          · exact of_appending (hlog ▸ hopen) (by rw [hclient])
      | none =>
          refine of_act (hact ⟨.receiving (.waiting (bytes ++
            (server.clients.get number).unread.take count)), sent⟩ ?_) fun after hclient hlog => ?_
          · simp [Connection.next, Receiving.read, hline, Stage.ofReceiving]
          · have hrest : newline ∈ (after.clients.get number).unread := by
              rw [hclient]
              rw [← List.take_append_drop count (server.clients.get number).unread] at hnewline
              exact (List.mem_append.mp hnewline).resolve_left (Bytes.line?_eq_none_iff.mp hline)
            refine ih (length - count) (by omega) (hlog ▸ hopen) hrest (by rw [hclient]) ?_
            rw [hclient, ← hlength]
            exact List.length_drop

end CanReply

end LineLog.Server
