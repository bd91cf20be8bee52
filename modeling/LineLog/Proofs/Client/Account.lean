import LineLog.Proofs.Client.Told
import LineLog.Proofs.Heard
import LineLog.Proofs.Log.Undone

/-!
# What the task of a client does

The task of a client receives, appends, copies the log and sends, and each of these may
end it.  Whatever the reads bring, however the append ends and wherever sending breaks
off, the task appends once if it has read a newline and otherwise never; it sends
nothing unless that append succeeded, and then a front of one copy of the log.
-/

namespace LineLog

namespace Client

variable {path : Path} {origin earlier later state : Client × Log} {events : List ClientEvent}
  {message reply : Bytes} {log : Log}

/-! ## One append and one copy -/

/-- A message that is appended was received, and it is the first line that the client
has sent. -/
theorem received_of_message (hrun : run path (started, log) events = some state)
    (hmessage : state.1.message? = some message) :
    HasReadLine path (started, log) events ∧ state.1.arrived.line? = some message := by
  constructor
  · have htold := told_of_run hrun
    unfold message? at hmessage
    split at hmessage
    · next bytes sent hconnection => exact (htold _ hconnection).2
    · cases hmessage
  · refine Heard.line?_eq ?_ hmessage
    refine foldlM_induction (fun _ state => state.1.Heard) ?_ ?_ hrun
    · exact ⟨rfl, List.not_mem_nil⟩
    · intro events state event following _ hheard hnext
      obtain ⟨client, log⟩ := following
      cases event with
      | act stopping step => exact hheard.act hnext
      | arrive bytes =>
          obtain ⟨-, hsome⟩ := Option.ite_none_left_eq_some.mp hnext
          obtain ⟨rfl, -⟩ := Prod.mk.inj (Option.some.inj hsome)
          exact hheard.arrive bytes
      | finish | others =>
          obtain ⟨rfl, -⟩ := Prod.mk.inj (Option.some.inj hnext)
          exact hheard

theorem HasTried.hasReadLine {result : Except AppendFailure Unit}
    (htried : HasTried path (started, log) events message result) :
    HasReadLine path (started, log) events := by
  obtain ⟨before, stopping, obstacles, earlier, later, hstep, hmessage, -⟩ := htried
  obtain ⟨following, rfl⟩ := hstep.split
  exact (received_of_message hstep.run_before hmessage).1.extend _

theorem HasTried.exists_append {result : Except AppendFailure Unit}
    (htried : HasTried path origin events message result) : ∃ event ∈ events, event.isAppend := by
  obtain ⟨before, stopping, obstacles, earlier, later, hstep, -⟩ := htried
  obtain ⟨following, rfl⟩ := hstep.split
  exact ⟨_, List.mem_append_right _ (List.mem_cons_self ..), rfl⟩

/-- The task appends at most once, so there is one message and one result. -/
theorem HasTried.unique {words : Bytes} {result other : Except AppendFailure Unit}
    (htried : HasTried path origin events message result)
    (hother : HasTried path origin events words other) : message = words ∧ result = other := by
  obtain ⟨before, stopping, obstacles, earlier, later, hstep, hmessage, rfl⟩ := htried
  obtain ⟨past, stopping', obstacles', reached, final, hagain, hwords, rfl⟩ := hother
  have hfirst := rank_of_append hstep.next_eq
  have hsecond := rank_of_append hagain.next_eq
  obtain ⟨-, hevent, rfl⟩ := hstep.eq_of_length hagain
    (length_eq_of_rank hstep hagain (by omega) (by omega) (by omega))
  obtain ⟨-, hstep⟩ := ClientEvent.act.inj hevent
  obtain rfl := ClientStep.append.inj hstep
  obtain rfl := Option.some.inj (hmessage.symm.trans hwords)
  exact ⟨rfl, rfl⟩

/-- The task copies the log at most once, so there is one reply. -/
theorem HasCopied.unique {words other : Bytes}
    (hcopied : HasCopied path origin events message reply)
    (hother : HasCopied path origin events words other) : reply = other := by
  obtain ⟨before, stopping, earlier, later, hstep, -, rfl⟩ := hcopied
  obtain ⟨past, stopping', reached, final, hagain, -, rfl⟩ := hother
  have hfirst := rank_of_copy hstep.next_eq
  have hsecond := rank_of_copy hagain.next_eq
  obtain ⟨-, -, rfl⟩ := hstep.eq_of_length hagain
    (length_eq_of_rank hstep hagain (by omega) (by omega) (by omega))
  rfl

theorem countP_isAppend_le_one (hrun : run path origin events = some state) :
    events.countP ClientEvent.isAppend ≤ 1 := by
  have happend (event : ClientEvent) (happends : event.isAppend) :
      ∃ stopping obstacles, event = .act stopping (.append obstacles) := by
    unfold ClientEvent.isAppend at happends
    split at happends
    · exact ⟨_, _, rfl⟩
    · cases happends
  apply countP_le_one
  intro before event after hsplit hfirst other hother
  by_contra hsecond
  obtain ⟨between, rest, rfl⟩ := List.append_of_mem hother
  obtain ⟨stopping, obstacles, rfl⟩ := happend event hfirst
  obtain ⟨stopping', obstacles', rfl⟩ := happend other (Bool.of_not_eq_false hsecond)
  obtain ⟨earlier, later, hstep⟩ := TakesStep.exists_of_split hrun hsplit
  rw [← List.cons_append, ← List.append_assoc] at hsplit
  obtain ⟨reached, final, hagain⟩ := TakesStep.exists_of_split hrun hsplit
  have hfirst := rank_of_append hstep.next_eq
  have hsecond := rank_of_append hagain.next_eq
  have hlength := length_eq_of_rank hstep hagain (by omega) (by omega) (by omega)
  simp at hlength

/-- A task that has ended has appended exactly if it had received a message. -/
theorem Ended.exists_append_iff {sent : Bytes} {result : Except ConnectionError Outcome}
    (hended : Ended path (started, log) events sent result) :
    (∃ event ∈ events, event.isAppend) ↔ HasReadLine path (started, log) events := by
  have htried {message : Bytes} {outcome : Except AppendFailure Unit}
      (htried : HasTried path (started, log) events message outcome) :
      (∃ event ∈ events, event.isAppend) ↔ HasReadLine path (started, log) events :=
    ⟨fun _ => htried.hasReadLine, fun _ => htried.exists_append⟩
  have hsilent (hsilent : Silent path (started, log) events) :
      (∃ event ∈ events, event.isAppend) ↔ HasReadLine path (started, log) events := by
    refine ⟨?_, fun hread => absurd hread hsilent.2⟩
    rintro ⟨event, hmem, happend⟩
    rw [hsilent.1 event hmem] at happend
    cases happend
  rcases result with (cause | cause | cause) | (⟨words, reply⟩ | discarded | discarded)
  · exact hsilent hended.2
  · obtain ⟨-, message, failure, hrefused, -⟩ := hended
    exact htried hrefused
  · obtain ⟨message, reply, hcopied, -⟩ := hended
    exact htried hcopied.hasTried
  · obtain ⟨message, hcopied, -⟩ := hended
    exact htried hcopied.hasTried
  · exact hsilent hended.2
  · exact hsilent hended.2

/-- A task that has ended has sent its whole copy of the log exactly if it has replied. -/
theorem Ended.eq_copy_iff {sent : Bytes} {result : Except ConnectionError Outcome}
    (hended : Ended path origin events sent result)
    (hcopied : HasCopied path origin events message reply) :
    sent = reply ↔ ∃ words length, result = .ok (.replied words length) := by
  have hsilent (hsilent : Silent path origin events) : False := by
    obtain ⟨event, hmem, happend⟩ := hcopied.hasTried.exists_append
    rw [hsilent.1 event hmem] at happend
    cases happend
  rcases result with (cause | cause | cause) | (⟨words, length⟩ | discarded | discarded)
  · exact (hsilent hended.2).elim
  · obtain ⟨-, message, failure, hrefused, -⟩ := hended
    cases (hcopied.hasTried.unique hrefused).2
  · obtain ⟨message, copy, hother, -, hbroken⟩ := hended
    rw [hcopied.unique hother]
    exact ⟨fun hwhole => absurd hwhole hbroken, nofun⟩
  · obtain ⟨message, hother, -⟩ := hended
    exact ⟨fun _ => ⟨words, length, rfl⟩, fun _ => hother.unique hcopied⟩
  · exact (hsilent hended.2).elim
  · exact (hsilent hended.2).elim

/-! ## After the reply -/

end Client

/-- Nothing more is sent from this stage on. -/
def Stage.isOver : Stage → Bool
  | .lingering _ | .closing _ | .ended _ | .panicked => true
  | _ => false

theorem Connection.sent_eq_of_isOver {connection after : Connection} {input : ConnectionInput}
    (hnext : connection.next input = some after) (hover : connection.stage.isOver) :
    after.sent = connection.sent := by
  cases Connection.moved_of_next hnext with
  | sent message reply rest answer hstage =>
      rw [hstage] at hover
      cases hover
  | _ => rfl

namespace Client

theorem received_of_connection {client : Client} {connection : Connection}
    (hconnection : client.connection = some connection) : client.received = connection.sent := by
  rw [received, hconnection]

/-- A step that is taken after the reply sends nothing and leaves the log alone. -/
theorem eq_of_isOver {stopping : Bool} {step : ClientStep}
    (hnext : next path earlier (.act stopping step) = some later)
    (hover : earlier.1.connection.any (·.stage.isOver)) :
    later.1.received = earlier.1.received ∧ later.2 = earlier.2 := by
  have hentered {unread : Bytes} {after : Client} {input : ConnectionInput}
      (henter : { earlier.1 with unread }.enter input = some after) :
      after.received = earlier.1.received := by
    obtain ⟨connection, moved, hconnection, hmoved, rfl⟩ := exists_of_enter henter
    have hconnection : earlier.1.connection = some connection := hconnection
    rw [hconnection, Option.any_some] at hover
    rw [received_of_connection hconnection]
    exact Connection.sent_eq_of_isOver hmoved hover
  obtain ⟨client, log⟩ := later
  cases acted_of_next hnext with
  | took count _ hoffers henter => exact ⟨hentered henter, rfl⟩
  | appended obstacles message _ hmessage henter =>
      unfold message? at hmessage
      split at hmessage
      · next bytes sent hconnection =>
        rw [hconnection] at hover
        cases hover
      · cases hmessage
  | discarded => exact ⟨rfl, rfl⟩
  | entered _ input _ hinput _ _ henter => exact ⟨hentered henter, rfl⟩

/-! ## The whole of the task -/

/-- What the task of a client has done to the log and sent to the client on the run over
`events`. -/
structure Accounted (path : Path) (origin : Client × Log) (events : List ClientEvent)
    (final : Client × Log) : Prop where
  /-- The task appends at most once. -/
  once : events.countP ClientEvent.isAppend ≤ 1
  /-- It appends what it has received.  The log grows by that if the append succeeds, and
  stays as it is if not; so does a file that holds what is in memory, unless something
  keeps it from being cut back. -/
  own : ∀ before stopping obstacles earlier later,
    TakesStep (next path) origin events before (.act stopping (.append obstacles)) earlier later →
      ∃ message, earlier.1.message? = some message ∧ HasReadLine path origin before ∧
        earlier.1.arrived.line? = some message ∧
        ((earlier.2.append obstacles message).2 = .ok () →
          later.2.bytes = earlier.2.bytes ++ message ∧ (earlier.2.InStep → later.2.InStep)) ∧
        ∀ failure, (earlier.2.append obstacles message).2 = .error failure →
          later.2.bytes = earlier.2.bytes ∧
            (earlier.2.InStep → failure.isUndone → earlier.2.SameAs later.2)
  /-- No other step of the task touches the log or its file. -/
  others : ∀ before stopping step earlier later,
    TakesStep (next path) origin events before (.act stopping step) earlier later →
      (∀ obstacles, step ≠ .append obstacles) → later.2 = earlier.2
  /-- What was sent is a front of one copy of the log, made after an append that
  succeeded. -/
  sent : final.1.received = [] ∨
    ∃ message reply, HasCopied path origin events message reply ∧ final.1.received <+: reply
  /-- After the reply nothing is sent and the log is left alone. -/
  afterReply : ∀ before stopping step earlier later,
    TakesStep (next path) origin events before (.act stopping step) earlier later →
      earlier.1.connection.any (·.stage.isOver) →
        later.1.received = earlier.1.received ∧ later.2 = earlier.2
  /-- A task that has ended has appended exactly if it had received a message, and sent
  the whole copy exactly if it has replied. -/
  ended : ∀ result sent, final.1.connection = some ⟨.ended result, sent⟩ →
    Ended path origin events sent result ∧
      ((∃ event ∈ events, event.isAppend) ↔ HasReadLine path origin events) ∧
      ∀ message reply, HasCopied path origin events message reply →
        (sent = reply ↔ ∃ words length, result = .ok (.replied words length))

/-- Whatever the reads bring, however the append ends, wherever sending breaks off, and whatever
others do to the log meanwhile, the task appends its message once at most and sends a front of one
copy that it made afterwards. -/
theorem accounted_of_run (hrun : run path (started, log) events = some state) :
    Accounted path (started, log) events state where
  once := countP_isAppend_le_one hrun
  own := by
    intro before stopping obstacles earlier later hstep
    obtain ⟨client, after⟩ := later
    cases acted_of_next hstep.next_eq with
    | appended _ message _ hmessage henter =>
        obtain ⟨hread, hline⟩ := received_of_message hstep.run_before hmessage
        refine ⟨message, hmessage, hread, hline, ?_, ?_⟩
        · intro hok
          refine ⟨?_, fun hin => hin.append hok⟩
          rw [Log.bytes_append, hok]
          rfl
        · intro failure hfailed
          exact ⟨Log.bytes_of_append_error hfailed,
            fun hin hundone => hin.sameAs_append hfailed hundone⟩
    | entered _ input _ hinput => cases hinput
  others := by
    intro before stopping step earlier later hstep hquiet
    exact log_eq_of_next hstep.next_eq hquiet
  sent := by
    cases hconnection : state.1.connection with
    | none =>
        left
        rw [received, hconnection]
    | some connection =>
        rw [received_of_connection hconnection]
        exact (told_of_run hrun connection hconnection).sent
  afterReply := by
    intro before stopping step earlier later hstep hover
    exact eq_of_isOver hstep.next_eq hover
  ended := by
    intro result sent hconnection
    have hended : Ended path (started, log) events sent result := told_of_run hrun _ hconnection
    exact ⟨hended, hended.exists_append_iff, fun message reply => hended.eq_copy_iff⟩

section Example

/-- A line arrives in two pieces, and its append is taken in two pieces; sending breaks
off after two bytes of the copy, of which others have appended the first. -/
private def brokenReplyEvents : List ClientEvent :=
  [.arrive [104], .act false (.take 1), .act false .timeOut, .act false .look,
    .arrive [105, 10, 120], .others (Log.empty.append .none [97, 10]).1, .act false (.take 3),
    .act true (.append ⟨[.accepted 1, .interrupted], fun _ => ⟨none, none⟩⟩), .act true .copy,
    .act true (.send (.accepted 2)), .act true (.send (.refused Os.Error.noSpace)),
    .act true .close]

/-- An append fails after two bytes, and the file is cut back. -/
private def refusedEvents : List ClientEvent :=
  [.arrive [104, 105, 10], .act false (.take 3),
    .act false (.append ⟨[.accepted 2, .refused Os.Error.noSpace], fun _ => ⟨none, none⟩⟩),
    .act false .close]

/-- In one run sending breaks off after two bytes, and in the other one the append fails. -/
theorem accounted_of_brokenReplyEvents :
    (∃ client log, run [100] (started, .empty) brokenReplyEvents = some (client, log) ∧
      client.connection = some ⟨.ended (.error (.send Os.Error.noSpace)), [97, 10]⟩ ∧
      log.bytes = [97, 10, 104, 105, 10] ∧
      Accounted [100] (started, .empty) brokenReplyEvents (client, log)) ∧
    ∃ client log, run [100] (started, .empty) refusedEvents = some (client, log) ∧
      client.connection = some ⟨.ended (.error (.append (.write [100] Os.Error.noSpace))), []⟩ ∧
      log.bytes = [] ∧ Accounted [100] (started, .empty) refusedEvents (client, log) := by
  refine ⟨⟨_, _, rfl, rfl, rfl, accounted_of_run rfl⟩, ⟨_, _, rfl, rfl, rfl, accounted_of_run rfl⟩⟩

/-- What an append of somebody else leaves that fails after two bytes and is not undone. -/
private def leftover : Log :=
  (Log.empty.append ⟨[.accepted 2, .refused Os.Error.noSpace],
    fun _ => ⟨some Os.Error.noSpace, none⟩⟩ [120, 121, 10]).1

/-- An append fails after two bytes, and the file is not cut back. -/
private def uncutEvents : List ClientEvent :=
  [.arrive [104, 105, 10], .act false (.take 3),
    .act false (.append ⟨[.accepted 2, .refused Os.Error.noSpace],
      fun _ => ⟨some Os.Error.noSpace, none⟩⟩),
    .act false .close]

/-- A failed append leaves the log as it is, but not always the file: its own bytes stay if
they cannot be cut off, and if they can, so is what another append has left behind. -/
theorem file_differs_of_refusedEvents :
    (∃ client log, run [100] (started, .empty) uncutEvents = some (client, log) ∧
      client.connection = some ⟨.ended (.error (.append (.write [100] Os.Error.noSpace))), []⟩ ∧
      log.bytes = [] ∧ Log.empty.file.map (·.toBytes) = some [] ∧
      log.file.map (·.toBytes) = some [104, 105]) ∧
    ∃ client log, run [100] (started, leftover) refusedEvents = some (client, log) ∧
      client.connection = some ⟨.ended (.error (.append (.write [100] Os.Error.noSpace))), []⟩ ∧
      leftover.bytes = [] ∧ log.bytes = [] ∧
      leftover.file.map (·.toBytes) = some [120, 121] ∧ log.file.map (·.toBytes) = some [] :=
  ⟨⟨_, _, rfl, rfl, rfl, rfl, rfl⟩, ⟨_, _, rfl, rfl, rfl, rfl, rfl, rfl⟩⟩

end Example

end Client

end LineLog
