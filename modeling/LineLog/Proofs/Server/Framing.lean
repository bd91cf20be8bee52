import LineLog.Proofs.Server.Reply
import LineLog.Proofs.Timestamp

/-!
# Reading the records back

The log of a server that began empty is nothing but lines: every record that was
appended is one, whatever clients send, whenever the ticker fires and whichever appends
fail.  So the records can be read back from the log as long as it is there, from every
copy of it and from every reply.
-/

namespace LineLog.Server

variable {server after : Server} {event : ServerEvent} {events : List ServerEvent}

/-- The record that a step commits: that of an append, if it succeeds. -/
def committed? (server : Server) (event : ServerEvent) : Option Entry :=
  (server.attempt? event).bind fun (entry, obstacles) =>
    match (server.log.append obstacles entry.record).2 with
    | .ok () => some entry
    | .error _ => none

def committed (server : Server) : List ServerEvent → List Entry
  | [] => []
  | event :: events =>
      (server.committed? event).toList ++
        match server.next event with
        | none => []
        | some after => after.committed events

/-- A step commits one entry at most. -/
theorem entries_of_next (hnext : server.next event = some after) :
    after.entries = server.entries ++ (server.committed? event).toList := by
  unfold committed?
  cases logged_of_next hnext with
  | kept hquiet _ hentries | removed hquiet _ hentries =>
      rw [hentries, hquiet]
      exact (List.append_nil _).symm
  | attempted entry obstacles hattempt _ hentries =>
      rw [hentries, hattempt, Option.bind_some]
      dsimp only
      cases (server.log.append obstacles entry.record).2 with
      | ok => rfl
      | error failure => exact (List.append_nil _).symm

/-- The entries are those at the beginning and those that the run has committed. -/
theorem entries_of_run (hrun : server.run events = some after) :
    after.entries = server.entries ++ server.committed events := by
  induction events generalizing server with
  | nil =>
      obtain rfl : server = after := Option.some.inj hrun
      exact (List.append_nil _).symm
  | cons event events ih =>
      obtain ⟨middle, hnext, hevents⟩ := Option.bind_eq_some_iff.mp hrun
      rw [ih hevents, entries_of_next hnext, committed, hnext, List.append_assoc]

/-- Every record in the log is a line. -/
theorem isLine_of_run {settings : Settings} {path : Path} {log : Log}
    (hrun : (initial settings path log).run events = some server) :
    ∀ entry ∈ server.entries, entry.record.IsLine := by
  intro entry hentry
  have hwhole := isWhole_of_run hrun entry hentry
  unfold IsWhole at hwhole
  split at hwhole
  · exact Bytes.isLine_of_line? hwhole
  · obtain ⟨instant, offset, hrecord⟩ := hwhole
    rw [hrecord]
    exact Timestamp.isLine_recordBytes instant offset

structure Decodes (bytes : Bytes) (entries : List Entry) : Prop where
  /-- Every record has one newline, which is its last byte. -/
  lines : ∀ entry ∈ entries, entry.record.IsLine
  /-- Cutting behind every newline gives the records in their order and nothing else. -/
  records_eq : bytes.records = entries.map (·.record)
  /-- The records make up all of the bytes. -/
  whole : bytes = (entries.map (·.record)).flatten
  /-- No other lines do. -/
  unique : ∀ pieces : List Bytes, (∀ piece ∈ pieces, piece.IsLine) → pieces.flatten = bytes →
    pieces = entries.map (·.record)
  /-- There are as many newlines as records. -/
  count_newline : bytes.count newline = entries.length

/-- Records that are lines can be told apart again in what they make together. -/
theorem decodes_records (hlines : ∀ entry ∈ server.entries, entry.record.IsLine) :
    Decodes server.records server.entries := by
  have hpieces : ∀ piece ∈ server.entries.map (·.record), piece.IsLine := by
    intro piece hpiece
    obtain ⟨entry, hentry, rfl⟩ := List.mem_map.mp hpiece
    exact hlines entry hentry
  have hwhole : server.records = (server.entries.map (·.record)).flatten :=
    List.flatMap_def
  refine ⟨hlines, ?_, hwhole, ?_, ?_⟩
  · rw [hwhole, Bytes.records_flatten hpieces]
  · intro pieces hall hflatten
    exact Bytes.eq_of_flatten_eq hall hpieces (hflatten.trans hwhole)
  · rw [hwhole, Bytes.count_newline_flatten hpieces, List.length_map]

/-- As long as the log has not been removed, it is read back as what was committed. -/
theorem decodes_log {settings : Settings} {path : Path}
    (hrun : (initial settings path .empty).run events = some server)
    (hopen : server.log.file.isSome) :
    Decodes server.log.bytes ((initial settings path .empty).committed events) := by
  have hrunning : server.phase.hasEnded = false := by
    by_contra hended
    rw [(recorded_of_run hrun).closed (Bool.of_not_eq_false hended)] at hopen
    cases hopen
  have hbytes : server.log.bytes = server.records := (recorded_of_run hrun).bytes_eq hrunning
  have hentries : server.entries = (initial settings path .empty).committed events :=
    entries_of_run hrun
  rw [hbytes, ← hentries]
  exact decodes_records (isLine_of_run hrun)

/-- The log of a server that began empty is read back as exactly the records that were
committed, in their order, until it is removed.  So is every copy of the log that a
worker makes, and every reply that was sent in full, with what was committed when the
copy was made. -/
theorem decoded_of_run {settings : Settings} {path : Path}
    (hrun : (initial settings path .empty).run events = some server) :
    (server.log.file.isSome →
      Decodes server.log.bytes ((initial settings path .empty).committed events)) ∧
    (∀ before number earlier later,
      (initial settings path .empty).TakesStep events before (.serve number .copy) earlier later →
        Decodes earlier.log.snapshot ((initial settings path .empty).committed before)) ∧
    ∀ number reply, (initial settings path .empty).Replied events number reply →
      ∃ before atCopy copied,
        (initial settings path .empty).TakesStep events before (.serve number .copy) atCopy
          copied ∧
        Decodes reply ((initial settings path .empty).committed before) := by
  refine ⟨decodes_log hrun, ?_, ?_⟩
  · intro before number earlier later hstep
    have hopen := (open_of_busy hstep.run_before (busy_of_serve hstep.next)).1
    exact decodes_log hstep.run_before hopen
  · intro number reply hreplied
    obtain ⟨message, past, atAppend, appended, before, atCopy, hanswered⟩ := hreplied.answered
    obtain ⟨copied, hcopy⟩ := hanswered.copy
    refine ⟨before, atCopy, copied, hcopy, ?_⟩
    rw [hanswered.reply_eq]
    exact decodes_log hcopy.run_before hanswered.log_open.1

section Example

/-- A line of a client, an append that fails after one byte, a timestamp, and a reply
that holds the line and the timestamp. -/
private def mixedEvents : List ServerEvent :=
  startEvents [0, 1] ++
    [.arrive 0 [97, 10, 98], .serve 0 (.take 3), .serve 0 (.append .none),
      .arrive 1 [99, 10], .serve 1 (.take 2),
      .serve 1 (.append ⟨[.accepted 1, .refused Os.Error.noSpace], fun _ => ⟨none, none⟩⟩),
      .tick .schedule, .tick .look, .tick (.append .none ⟨0, 0⟩ 0), .serve 0 .copy,
      .serve 0 (.send (.accepted 100))]

/-- A failed append leaves nothing to decode, and a reply is read back like the log. -/
theorem decoded_of_mixedEvents :
    ∃ server reply, (initial tickingSettings [slash, 100] .empty).run mixedEvents = some server ∧
      server.log.file.isSome ∧
      (initial tickingSettings [slash, 100] .empty).Replied mixedEvents 0 reply ∧
      Decodes server.log.bytes
        [⟨.client 0, [97, 10]⟩, ⟨.ticker, Timestamp.recordBytes ⟨0, 0⟩ 0⟩] ∧
      ∃ before, Decodes reply ((initial tickingSettings [slash, 100] .empty).committed before) := by
  have hstate : ((initial tickingSettings [slash, 100] .empty).run mixedEvents).map (fun server =>
      ((server.clients.get 0).reply?.isSome, server.log.file.isSome)) = some (true, true) := by
    rfl
  have hcommitted : (initial tickingSettings [slash, 100] .empty).committed mixedEvents =
      [⟨.client 0, [97, 10]⟩, ⟨.ticker, Timestamp.recordBytes ⟨0, 0⟩ 0⟩] := by
    rfl
  obtain ⟨server, hrun, hfields⟩ := Option.map_eq_some_iff.mp hstate
  obtain ⟨hsome, hopen⟩ := Prod.mk.inj hfields
  obtain ⟨reply, hreply⟩ := Option.isSome_iff_exists.mp hsome
  have hreplied : (initial tickingSettings [slash, 100] .empty).Replied mixedEvents 0 reply :=
    ⟨_, [], server, (List.append_nil _).symm, hrun, hreply⟩
  obtain ⟨hlog, -, hreplies⟩ := decoded_of_run hrun
  obtain ⟨before, atCopy, copied, -, hdecodes⟩ := hreplies 0 reply hreplied
  exact ⟨server, reply, hrun, hopen, hreplied, hcommitted ▸ hlog hopen, before, hdecodes⟩

end Example

end LineLog.Server
