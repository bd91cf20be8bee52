import LineLog.Proofs.Server.Step

/-!
# The records of a server

The log of a server holds what it held at the beginning and behind that the
records of the appends that succeeded, in their order, until the main thread
closes it as its last step.  Records, like the bytes that clients have sent, are
never taken back.
-/

namespace LineLog.Server

variable {server after : Server} {event : ServerEvent}

inductive Logged (server : Server) (event : ServerEvent) (after : Server) : Prop where
  | kept (hquiet : server.attempt? event = none) (hlog : after.log = server.log)
      (hentries : after.entries = server.entries)
      (hphase : after.phase.hasEnded = server.phase.hasEnded)
  | attempted (entry : Entry) (obstacles : Obstacles)
      (hattempt : server.attempt? event = some (entry, obstacles))
      (hlog : after.log = (server.log.append obstacles entry.record).1)
      (hentries : after.entries = enter entry.author entry.record
        (server.log.append obstacles entry.record).2 server.entries)
      (hphase : after.phase = server.phase)
  | removed (hquiet : server.attempt? event = none) (hlog : after.log = server.log.close.1)
      (hentries : after.entries = server.entries)
      (hidle : server.phase.hasWorkers = false) (hended : after.phase.hasEnded)

/-- A step does to the log one of the things listed. -/
theorem logged_of_next (hnext : server.next event = some after) : Logged server event after := by
  cases stepped_of_next hnext with
  | arrived | finished | triggered | reaped => exact .kept rfl rfl rfl rfl
  | began _ _ _ hbefore hphase =>
      refine .kept rfl rfl rfl ?_
      rw [ServerPhase.hasEnded_of_isStarting hbefore]
      rcases hphase with hstarting | rfl | ⟨error, rfl⟩
      · exact ServerPhase.hasEnded_of_isStarting hstarting
      · rfl
      · rfl
  | stopped _ _ hphase | joinedTicker _ _ _ hphase | joinedWorker _ _ _ _ _ _ hphase
  | joinedAll _ _ _ hphase | accepted _ hphase | started _ hphase =>
      exact .kept rfl rfl rfl (by rw [hphase]; rfl)
  | turned _ _ _ _ hphase _ _ _ _ hafter =>
      refine .kept rfl rfl rfl ?_
      rw [hphase]
      rcases hafter with ⟨rfl, -⟩ | ⟨accepted, -, rfl⟩ <;> rfl
  | removed fault result hphase =>
      refine .removed rfl rfl rfl ?_ rfl
      rcases hphase with ⟨accepted, report, hphase, -⟩ | ⟨error, hphase, -⟩ <;> rw [hphase] <;> rfl
  | served number step client hact hquiet =>
      refine .kept ?_ rfl rfl rfl
      cases step with
      | append obstacles => exact absurd rfl (hquiet obstacles)
      | _ => rfl
  | appended number obstacles message client hmessage =>
      have hattempt : server.attempt? (.serve number (.append obstacles)) =
          some (⟨.client number, message⟩, obstacles) := by
        simp [attempt?, hmessage]
      exact .attempted ⟨.client number, message⟩ obstacles hattempt rfl rfl rfl
  | ticked step before phase _ _ hquiet =>
      refine .kept ?_ rfl rfl rfl
      cases step with
      | append obstacles instant offset => exact absurd rfl (hquiet obstacles instant offset)
      | _ => rfl
  | tickerAppended obstacles instant offset =>
      exact .attempted ⟨.ticker, Timestamp.recordBytes instant offset⟩ obstacles rfl rfl rfl rfl

/-! ## What the log holds -/

@[simp]
theorem flatMap_record_enter (author : Author) (record : Bytes)
    (result : Except AppendFailure Unit) (entries : List Entry) :
    (enter author record result entries).flatMap (·.record) =
      entries.flatMap (·.record) ++ Log.addedBy record result := by
  cases result with
  | ok => exact List.flatMap_append.trans (congrArg _ (List.flatMap_singleton ..))
  | error => exact (List.append_nil _).symm

theorem prefix_enter (author : Author) (record : Bytes) (result : Except AppendFailure Unit)
    (entries : List Entry) : entries <+: enter author record result entries := by
  cases result with
  | ok => exact List.prefix_append _ _
  | error => exact List.prefix_refl _

/-- An entry is new only by the append that makes it. -/
theorem mem_enter {author : Author} {record : Bytes} {result : Except AppendFailure Unit}
    {entries : List Entry} {entry : Entry} (hentry : entry ∈ enter author record result entries) :
    entry ∈ entries ∨ entry = ⟨author, record⟩ := by
  cases result with
  | ok => simpa [enter] using hentry
  | error => exact .inl hentry

/-- Until the server has ended the log is open if it was at the beginning, and it holds the
records behind what it held then. -/
structure Recorded (origin : Log) (server : Server) : Prop where
  isSome_file : server.phase.hasEnded = false → server.log.file.isSome = origin.file.isSome
  bytes_eq : server.phase.hasEnded = false → server.log.bytes = origin.bytes ++ server.records
  closed : server.phase.hasEnded → server.log.file = none

theorem recorded_initial (settings : Settings) (path : Path) (log : Log) :
    Recorded log (initial settings path log) where
  isSome_file _ := rfl
  bytes_eq _ := (List.append_nil _).symm
  closed hended := by cases hended

/-- Entries and bytes change together in every step. -/
theorem Recorded.next {origin : Log} (hrecorded : Recorded origin server)
    (hnext : server.next event = some after) : Recorded origin after := by
  cases logged_of_next hnext with
  | kept _ hlog hentries hphase =>
      refine ⟨?_, ?_, ?_⟩
      · rw [hphase, hlog]
        exact hrecorded.isSome_file
      · rw [hphase, hlog, records, hentries]
        exact hrecorded.bytes_eq
      · rw [hphase, hlog]
        exact hrecorded.closed
  | attempted entry obstacles _ hlog hentries hphase =>
      refine ⟨?_, ?_, ?_⟩
      · rw [hphase, hlog, Log.isSome_file_append]
        exact hrecorded.isSome_file
      · intro hrunning
        rw [hphase] at hrunning
        rw [hlog, Log.bytes_append, hrecorded.bytes_eq hrunning, List.append_assoc]
        simp only [records, hentries, flatMap_record_enter]
      · intro hended
        rw [hphase] at hended
        rw [hlog, Log.append_of_closed _ _ _ (hrecorded.closed hended)]
        exact hrecorded.closed hended
  | removed _ hlog _ _ hended =>
      refine ⟨?_, ?_, ?_⟩
      · intro hrunning
        rw [hended] at hrunning
        cases hrunning
      · intro hrunning
        rw [hended] at hrunning
        cases hrunning
      · intro _
        rw [hlog]
        exact Log.file_close server.log

/-- While the server has not ended, its log holds the records of its entries. -/
theorem recorded_of_run {settings : Settings} {path : Path} {log : Log}
    {events : List ServerEvent} (hrun : (initial settings path log).run events = some server) :
    Recorded log server :=
  foldlM_induction (fun _ => Recorded log) (recorded_initial settings path log)
    (fun _ _ _ _ _ hrecorded hnext => hrecorded.next hnext) hrun

/-! ## What is never taken back -/

theorem entries_prefix_of_next (hnext : server.next event = some after) :
    server.entries <+: after.entries := by
  cases logged_of_next hnext with
  | kept _ _ hentries | removed _ _ hentries => exact hentries ▸ List.prefix_refl _
  | attempted entry obstacles _ _ hentries =>
      rw [hentries]
      exact prefix_enter _ _ _ _

/-- Entries stay and are only added to. -/
theorem entries_prefix_of_run {events : List ServerEvent}
    (hrun : server.run events = some after) : server.entries <+: after.entries :=
  foldlM_induction (fun _ state => server.entries <+: state.entries) (List.prefix_refl _)
    (fun _ _ _ _ _ hfront hnext => hfront.trans (entries_prefix_of_next hnext)) hrun

/-- A server that has ended has ended for good. -/
theorem hasEnded_of_run {events : List ServerEvent} (hrun : server.run events = some after)
    (hended : server.phase.hasEnded) : after.phase.hasEnded := by
  refine foldlM_induction (fun _ state => state.phase.hasEnded) hended ?_ hrun
  intro _ state event following _ hstate hnext
  cases logged_of_next hnext with
  | kept _ _ _ hphase => rwa [hphase]
  | attempted _ _ _ _ _ hphase => rwa [hphase]
  | removed _ _ _ _ hfollowing => exact hfollowing

end LineLog.Server
