import LineLog.Proofs.Drain.Course
import LineLog.Proofs.Store.Closing

/-!
# What a drain reports

When a drain returns, every task that it waits for has ended and the store is closed.  Its
report counts what went wrong, and only that.
-/

namespace LineLog

theorem Store.remove_eq_error_iff {store : Store} {host : Host} {error : StoreError} :
    (store.remove host).2 = .error error ↔
      ∃ handle cause, store.handle = some handle ∧
        (host.close handle).deleteFile store.path = .error cause ∧
        error = .remove store.path cause := by
  cases hhandle : store.handle with
  | none => simp [remove, hhandle]
  | some handle =>
      have hshuts := shuts_remove host hhandle
      generalize store.remove host = outcome at hshuts
      cases hshuts with
      | deleted after hdeletion =>
          constructor
          · rintro ⟨⟩
          · rintro ⟨_, cause, hother, hfailed, -⟩
            cases hother
            cases hfailed.symm.trans hdeletion
      | kept cause hdeletion =>
          refine ⟨fun hremoved => ?_, ?_⟩
          · exact ⟨handle, cause, rfl, hdeletion, (Except.error.inj hremoved).symm⟩
          · rintro ⟨_, other, hother, hfailed, rfl⟩
            cases hother
            cases hfailed.symm.trans hdeletion
            rfl

theorem Store.remove_eq_ok_iff {store : Store} {host : Host} :
    (store.remove host).2 = .ok () ↔
      store.handle = none ∨ ∃ handle after, store.handle = some handle ∧
        (host.close handle).deleteFile store.path = .ok after := by
  cases hhandle : store.handle with
  | none => simp [remove, hhandle]
  | some handle =>
      have hshuts := shuts_remove host hhandle
      generalize store.remove host = outcome at hshuts
      cases hshuts with
      | deleted after hdeletion =>
          exact iff_of_true rfl (.inr ⟨handle, after, rfl, hdeletion⟩)
      | kept cause hdeletion =>
          constructor
          · rintro ⟨⟩
          · rintro (hnone | ⟨_, after, hother, hdeleted⟩)
            · cases hnone
            · cases hother
              cases hdeleted.symm.trans hdeletion

theorem DrainReport.isClean_iff {report : DrainReport} :
    report.isClean ↔
      report.panickedWorkers = 0 ∧ report.tickerPanicked = false ∧ report.store = none := by
  simp [isClean, and_assoc]

theorem DrainReport.result_eq_ok_iff {report : DrainReport} :
    report.result = .ok () ↔ report.isClean := by
  unfold result
  cases report.isClean <;> simp

theorem DrainReport.result_of_ne_ok {report : DrainReport} (hfailed : report.result ≠ .ok ()) :
    report.result = .error report :=
  if_neg (mt DrainReport.result_eq_ok_iff.mpr hfailed)

theorem DrainReport.store_enter_eq_none_iff {report : DrainReport}
    {removed : Except StoreError Unit} (hnone : report.store = none) :
    (report.enter removed).store = none ↔ removed = .ok () := by
  cases removed <;> simp [enter, hnone]

theorem DrainReport.store_enter {report : DrainReport} {removed : Except StoreError Unit}
    {error : StoreError} (hnone : report.store = none) :
    (report.enter removed).store = some error ↔ removed = .error error := by
  cases removed with
  | ok => simp [enter, hnone]
  | error cause => simp [enter]

@[simp]
theorem DrainReport.panickedWorkers_enter (removed : Except StoreError Unit)
    (report : DrainReport) : (report.enter removed).panickedWorkers = report.panickedWorkers := by
  cases removed <;> rfl

@[simp]
theorem DrainReport.tickerPanicked_enter (removed : Except StoreError Unit)
    (report : DrainReport) : (report.enter removed).tickerPanicked = report.tickerPanicked := by
  cases removed <;> rfl

namespace Draining

variable {draining after : Draining} {events : List DrainEvent} {event : DrainEvent}
  {ticker : Option (Option Ending)} {registry : Registry}

/-! ## The store -/

/-- What has become of the store that the drain removes. -/
structure Keeps (store : Store) (events : List DrainEvent) (draining : Draining) : Prop where
  path_eq : draining.store.path = store.path
  /-- A store that is closed keeps no records. -/
  emptied : draining.store.handle = none → draining.store.bytes = []
  /-- Until the drain removes the store, others may have done so. -/
  handle_eq : draining.phase.due ≠ none →
    (draining.store.handle = none ↔ store.handle = none ∨ .call .remove ∈ events)

theorem Keeps.of_eq {store : Store} (hkeeps : Keeps store events draining)
    (hstore : after.store = draining.store)
    (hdue : after.phase.due ≠ none → draining.phase.due ≠ none) (hevent : event ≠ .call .remove) :
    Keeps store (events ++ [event]) after where
  path_eq := by rw [hstore, hkeeps.path_eq]
  emptied := by rw [hstore]; exact hkeeps.emptied
  handle_eq hafter := by
    rw [hstore, hkeeps.handle_eq (hdue hafter), List.mem_append, List.mem_singleton,
      or_iff_left hevent.symm]

theorem Keeps.next {store : Store} (hkeeps : Keeps store events draining)
    (hnext : draining.next event = some after) : Keeps store (events ++ [event]) after := by
  cases stepped_of_next hnext with
  | triggered hphase | joinedTicker _ hphase | joined _ _ hphase =>
      exact hkeeps.of_eq rfl (fun _ => by rw [hphase]; exact nofun) nofun
  | requested | tickerEnded | workerEnded | changed => exact hkeeps.of_eq rfl id nofun
  | removed report hphase =>
      obtain ⟨hempty, hpath, -⟩ := Store.call_spec hkeeps.emptied .remove draining.host
      exact ⟨hpath.trans hkeeps.path_eq, hempty, fun hdue => absurd rfl hdue⟩
  | called call =>
      obtain ⟨hempty, hpath, hhandle⟩ := Store.call_spec hkeeps.emptied call draining.host
      refine ⟨hpath.trans hkeeps.path_eq, hempty, fun hdue => ?_⟩
      rw [hhandle, hkeeps.handle_eq hdue, List.mem_append, List.mem_singleton, or_assoc,
        DrainEvent.call.injEq, @eq_comm _ StoreCall.remove]

/-- The drain has removed the store after the events `before`, and nobody has touched it
since. -/
structure Removed (origin : Draining) (events before : List DrainEvent) (earlier : Draining)
    (report : DrainReport) (draining : Draining) : Prop where
  step : TakesStep Draining.next origin events before .step earlier (earlier.remove report)
  phase : earlier.phase = .removing report
  result : draining.phase = (earlier.remove report).phase
  store : draining.store = (earlier.remove report).store

theorem Removed.snoc {origin earlier : Draining} {before : List DrainEvent}
    {report : DrainReport} (hremoved : Removed origin events before earlier report draining)
    (hclosed : (earlier.remove report).store.Closed) (hnext : draining.next event = some after) :
    Removed origin (events ++ [event]) before earlier report after := by
  have hstep := hremoved.step.extend [event]
  have hresult := hremoved.result
  have hstore := hremoved.store
  cases stepped_of_next hnext with
  | triggered hphase | joinedTicker _ hphase | joined _ _ hphase | removed _ hphase =>
      cases hphase.symm.trans hresult
  | called call =>
      refine ⟨hstep, hremoved.phase, hresult, ?_⟩
      rw [hstore, hclosed.call_eq]
  | _ => exact ⟨hstep, hremoved.phase, hresult, hstore⟩

/-! ## The report -/

/-- How a drain has gone that removed the store in the state `earlier`, after the events
`before`, and what `report` tells of it. -/
structure Drained (ticker : Option (Option Ending)) (registry : Registry) (store : Store)
    (events before : List DrainEvent) (earlier : Draining) (report : DrainReport) : Prop where
  /-- Every task had ended by then, -/
  ended : AllEnd ticker registry before
  /-- every registered worker had been joined, and nobody else, -/
  joined : earlier.workers.joined.map Joined.entry = registry.entries.map (settle events)
  /-- and the store was open, unless it was closed at first or somebody else removed it. -/
  handle_eq : earlier.store.handle = none ↔ store.handle = none ∨ .call .remove ∈ before
  panickedWorkers : report.panickedWorkers =
    registry.entries.countP fun entry => workerEnding events entry = some .panicked
  tickerPanicked : report.tickerPanicked = true ↔
    ticker.bind (tickerEnding events) = some .panicked
  success : report.store = none ↔
    earlier.store.handle = none ∨ ∃ handle after, earlier.store.handle = some handle ∧
      (earlier.host.close handle).deleteFile store.path = .ok after
  failure : ∀ error, report.store = some error ↔
    ∃ handle cause, earlier.store.handle = some handle ∧
      (earlier.host.close handle).deleteFile store.path = .error cause ∧
      error = .remove store.path cause
  /-- The report is that of a drain at once that is told how the tasks end. -/
  atOnce : ∀ (later : Worker → Ending) (shutdown : Shutdown),
    (∀ entry ∈ registry.entries,
      workerEnding events entry = some (entry.2.ending.getD (later entry.2))) →
    (Service.drain later ⟨shutdown, ticker.bind (tickerEnding events), registry, earlier.store⟩
      earlier.host).2 = report

theorem keeps_of_run {shutdown : Shutdown} {store : Store} {host : Host}
    (hempty : store.handle = none → store.bytes = [])
    (hrun : (initial shutdown ticker registry store host).run events = some draining) :
    Keeps store events draining := by
  refine foldlM_induction (Keeps store) ?_ ?_ hrun
  · exact ⟨rfl, hempty, fun _ => by simp [initial]⟩
  · exact fun _ _ _ _ _ hkeeps hnext => hkeeps.next hnext

theorem Keeps.closed_remove {store : Store} (hkeeps : Keeps store events draining)
    (report : DrainReport) : (draining.remove report).store.Closed := by
  obtain ⟨hempty, -, hhandle⟩ := Store.call_spec hkeeps.emptied .remove draining.host
  have hclosed := hhandle.mpr (.inr rfl)
  exact ⟨hclosed, hempty hclosed⟩

theorem removed_of_run {shutdown : Shutdown} {store : Store} {host : Host}
    (hempty : store.handle = none → store.bytes = [])
    (hrun : (initial shutdown ticker registry store host).run events = some draining)
    (hreturned : draining.phase.due = none) :
    ∃ before earlier report,
      Removed (initial shutdown ticker registry store host) events before earlier report
        draining := by
  refine foldlM_induction (fun events draining => draining.phase.due = none →
    ∃ before earlier report, Removed (initial shutdown ticker registry store host) events before
      earlier report draining) ?_ ?_ hrun hreturned
  · exact nofun
  · intro events draining event after hrun ih hnext hreturned
    cases hdue : draining.phase.due with
    | none =>
        obtain ⟨before, earlier, report, hremoved⟩ := ih hdue
        have hkeeps := keeps_of_run hempty hremoved.step.run_before
        exact ⟨before, earlier, report, hremoved.snoc (hkeeps.closed_remove report) hnext⟩
    | some due =>
        have hstep := TakesStep.last hrun hnext
        cases stepped_of_next hnext with
        | removed report hphase =>
            exact ⟨events, draining, report, hstep, hphase, rfl, rfl⟩
        | triggered | joinedTicker => cases hreturned
        | joined tickerPanicked =>
            exfalso
            revert hreturned
            unfold DrainPhase.afterJoining
            split <;> exact nofun
        | _ => cases hdue.symm.trans hreturned

/-- The workers that were joined and had panicked are those that end so. -/
theorem Tracked.panickedWorkers_eq (htracked : Tracked ticker registry events draining)
    (hregistry : draining.workers.registry = .empty) (hidle : draining.workers.phase = .idle) :
    draining.panickedWorkers =
      registry.entries.countP fun entry => workerEnding events entry = some .panicked := by
  have hendings := htracked.endings_eq hregistry hidle
  calc draining.panickedWorkers
      = (draining.workers.joined.map (some ·.ending)).count (some .panicked) := by
        rw [panickedWorkers, List.count, List.count, List.countP_map, List.countP_map]
        rfl
    _ = registry.entries.countP fun entry => workerEnding events entry = some .panicked := by
        rw [hendings, List.count, List.countP_map]
        exact List.countP_congr fun entry _ => by simp

/-- When the store is removed, the drain has waited for every task. -/
theorem Tracked.allEnd (htracked : Tracked ticker registry events draining)
    {tickerPanicked : Bool} (hticker : draining.tickerPanicked? = some tickerPanicked)
    (hregistry : draining.workers.registry = .empty) (hidle : draining.workers.phase = .idle) :
    AllEnd ticker registry events where
  ticker ending hmem := by
    have hstate : draining.ticker = some (tickerEnding events ending) := by
      rw [htracked.ticker_eq, hmem]
      rfl
    rw [tickerPanicked?, hstate] at hticker
    exact Option.isSome_map.symm.trans (Option.isSome_of_eq_some hticker)
  workers entry hmem := by
    have hending : workerEnding events entry ∈ registry.entries.map (workerEnding events) :=
      List.mem_map_of_mem hmem
    rw [← htracked.endings_eq hregistry hidle] at hending
    obtain ⟨record, -, hrecord⟩ := List.mem_map.mp hending
    rw [← hrecord]
    rfl

/-- The ticker is found to have panicked if it has. -/
theorem Tracked.tickerPanicked_iff (htracked : Tracked ticker registry events draining)
    {tickerPanicked : Bool} (hticker : draining.tickerPanicked? = some tickerPanicked) :
    tickerPanicked = true ↔ ticker.bind (tickerEnding events) = some .panicked := by
  rw [tickerPanicked?, htracked.ticker_eq] at hticker
  cases hending : ticker with
  | none =>
      rw [hending] at hticker
      cases hticker
      simp
  | some ending =>
      rw [hending] at hticker
      obtain ⟨last, hlast, rfl⟩ := Option.map_eq_some_iff.mp hticker
      rw [Option.bind_some, hlast, Option.some.injEq, decide_eq_true_iff]

/-- What has ended has ended for good. -/
theorem AllEnd.settle_append (hend : AllEnd ticker registry events) (more : List DrainEvent) :
    registry.entries.map (settle (events ++ more)) = registry.entries.map (settle events) := by
  refine List.map_congr_left fun entry hmem => ?_
  rw [settle, settle, workerEnding_append_of_isSome (hend.workers entry hmem)]

theorem AllEnd.ticker_append (hend : AllEnd ticker registry events) (more : List DrainEvent) :
    ticker.bind (tickerEnding (events ++ more)) = ticker.bind (tickerEnding events) := by
  cases hticker : ticker with
  | none => rfl
  | some ending => exact tickerEnding_append_of_isSome (hend.ticker ending hticker) more

theorem Removed.drained {shutdown : Shutdown} {store : Store} {host : Host}
    {before : List DrainEvent} {earlier : Draining} {report : DrainReport}
    (hempty : store.handle = none → store.bytes = [])
    (hremoved : Removed (initial shutdown ticker registry store host) events before earlier report
      draining) :
    Drained ticker registry store events before earlier
      (report.enter (earlier.store.remove earlier.host).2) := by
  obtain ⟨following, hsplit⟩ := hremoved.step.split
  have htracked := Tracked.of_run hremoved.step.run_before
  have hkeeps := keeps_of_run hempty hremoved.step.run_before
  have hstage := htracked.stage
  rw [hremoved.phase] at hstage
  cases hstage with
  | removing tickerPanicked _ hticker hregistry hidle =>
      have hend := htracked.allEnd hticker hregistry hidle
      have hworkers : earlier.panickedWorkers =
          registry.entries.countP fun entry => workerEnding events entry = some .panicked := by
        rw [htracked.panickedWorkers_eq hregistry hidle, hsplit]
        refine List.countP_congr fun entry hmem => ?_
        rw [workerEnding_append_of_isSome (hend.workers entry hmem)]
      have htickers := htracked.tickerPanicked_iff hticker
      rw [← hend.ticker_append (.step :: following), ← hsplit] at htickers
      refine ⟨hend, ?_, ?_, ?_, ?_, ?_, ?_, ?_⟩
      · rw [hsplit, hend.settle_append]
        exact htracked.entries_eq hregistry hidle
      · refine hkeeps.handle_eq ?_
        rw [hremoved.phase]
        exact nofun
      · rw [DrainReport.panickedWorkers_enter, hworkers]
      · rw [DrainReport.tickerPanicked_enter, htickers]
      · rw [DrainReport.store_enter_eq_none_iff rfl, Store.remove_eq_ok_iff, hkeeps.path_eq]
      · intro error
        rw [DrainReport.store_enter rfl, Store.remove_eq_error_iff, hkeeps.path_eq]
      · intro later shutdown hlater
        have hjoined : (registry.joinAll later).2.panicked = earlier.panickedWorkers := by
          rw [hworkers, Registry.joinAll, JoinSummary.panicked_ofEndings, List.count,
            List.countP_map]
          refine List.countP_congr fun entry hmem => ?_
          simp [hlater entry hmem]
        have hflag : decide (ticker.bind (tickerEnding events) = some .panicked) =
            tickerPanicked := by
          rw [Bool.eq_iff_iff, decide_eq_true_iff, htickers]
        simp only [Service.drain, hjoined, hflag]
        generalize (earlier.store.remove earlier.host).2 = removed
        cases removed <;> rfl

/-- However the tasks end and whatever fails, a drain takes the same steps: what it does next
depends on nothing but how many it has taken.  When it returns, shutdown is requested, every
task has ended, and the store is closed and empty.  It succeeds exactly if no worker and no
ticker has panicked and the store was closed before or its file was deleted; else its error
reports how many workers have panicked, whether the ticker has, and why the file was not deleted.
Once the tasks have ended, the drain returns. -/
theorem drained_of_run {shutdown : Shutdown} {store : Store} {host : Host}
    (hempty : store.handle = none → store.bytes = [])
    (hrun : (initial shutdown ticker registry store host).run events = some draining) :
    draining.phase.due = DrainStep.scheduled registry.length (events.countP (·.isStep)) ∧
    (∀ result, draining.phase = .returned result →
      draining.shutdown.requested = true ∧ draining.store.Closed ∧
      ∃ before earlier later report,
        TakesStep Draining.next (initial shutdown ticker registry store host) events before .step
          earlier later ∧
        later.host = (earlier.store.remove earlier.host).1.1 ∧
        later.store = (earlier.store.remove earlier.host).1.2 ∧ draining.store = later.store ∧
        Drained ticker registry store events before earlier report ∧
        (result = .ok () ↔
          (∀ entry ∈ registry.entries, workerEnding events entry ≠ some .panicked) ∧
          ticker.bind (tickerEnding events) ≠ some .panicked ∧
          (earlier.store.handle = none ∨ ∃ handle after, earlier.store.handle = some handle ∧
            (earlier.host.close handle).deleteFile store.path = .ok after)) ∧
        (result ≠ .ok () → result = .error report)) ∧
    (AllEnd ticker registry events →
      ∃ final result, (initial shutdown ticker registry store host).run (events ++
          List.replicate (registry.length + 4 - events.countP (·.isStep)) .step) = some final ∧
        final.phase = .returned result) := by
  have htracked := Tracked.of_run hrun
  refine ⟨htracked.due_eq, fun result hphase => ?_, fun hend => ?_⟩
  · have hreturned : draining.phase.due = none := by
      rw [hphase]
      rfl
    obtain ⟨before, earlier, report, hremoved⟩ := removed_of_run hempty hrun hreturned
    have hdrained := hremoved.drained hempty
    have hkeeps := keeps_of_run hempty hremoved.step.run_before
    have hstage := htracked.stage
    rw [hphase] at hstage
    cases hstage with
    | returned _ hrequested =>
        obtain rfl : result = (report.enter (earlier.store.remove earlier.host).2).result :=
          DrainPhase.returned.inj (hphase.symm.trans hremoved.result)
        have hclosed : draining.store.Closed := by
          rw [hremoved.store]
          exact hkeeps.closed_remove report
        refine ⟨hrequested, hclosed, before, earlier, _, _, hremoved.step, rfl, rfl, hremoved.store,
          hdrained, ?_, DrainReport.result_of_ne_ok⟩
        have hworkers : (report.enter (earlier.store.remove earlier.host).2).panickedWorkers = 0 ↔
            ∀ entry ∈ registry.entries, workerEnding events entry ≠ some .panicked := by
          rw [hdrained.panickedWorkers, List.countP_eq_zero]
          simp
        rw [DrainReport.result_eq_ok_iff, DrainReport.isClean_iff, hworkers, ← Bool.not_eq_true,
          hdrained.tickerPanicked, hdrained.success]
  · obtain ⟨final, result, hreturns, hphase⟩ := htracked.exists_return hend
      (registry.length + 4 - events.countP (·.isStep)) (Nat.add_sub_of_le htracked.taken_le)
    exact ⟨final, result, foldlM_append_eq_some_iff.mpr ⟨draining, hrun, hreturns⟩, hphase⟩

section Example

private def threeWorkers : Registry :=
  let peer := .v4 .unspecified 4000
  ⟨[some ⟨0, peer, none⟩, some ⟨1, peer, some .returned⟩, some ⟨2, peer, none⟩], []⟩

/-- One worker has ended when the drain begins, and another one panics then.  The ticker panics
while it is joined, and the file of the store is deleted while the workers are. -/
private def unluckyEvents : List DrainEvent :=
  [.workerEnds 2 .panicked, .step, .call (.append .none [104, 105, 10]), .tickerEnds .panicked,
    .step, .trigger, .workerEnds 0 .returned, .step,
    .change fun host => { host with tree := host.tree.erase [[100]] }, .step, .step, .step]

/-- A worker, the ticker and the deletion fail, and the drain reports all three and returns. -/
theorem drained_of_unluckyEvents :
    ∃ created store final before earlier cause,
      Store.create [slash, 100] Store.staleHost = .ok (created, store) ∧
      (initial .initial (some none) threeWorkers store created).run (unluckyEvents ++ [.step]) =
        some final ∧
      final.phase = .returned (.error ⟨1, true, some (.remove [slash, 100] cause)⟩) ∧
      final.shutdown.requested = true ∧ final.store.Closed ∧
      Drained (some none) threeWorkers store (unluckyEvents ++ [.step]) before earlier
        ⟨1, true, some (.remove [slash, 100] cause)⟩ := by
  obtain ⟨last, handle, hlast, hphase, hpath, hhandle, hnode⟩ : ∃ last handle,
      (initial .initial (some none) threeWorkers Store.emptiedStore
        Store.emptiedHost).run unluckyEvents = some last ∧
      last.phase = .removing ⟨1, true, none⟩ ∧ last.store.path = [slash, 100] ∧
      last.store.handle = some handle ∧ last.host.tree.node? [[100]] = none :=
    ⟨_, _, rfl, rfl, rfl, rfl, FileTree.node?_erase_self (by simp)⟩
  -- nothing is named `d` by then
  have hdeletion : (last.host.close handle).deleteFile last.store.path =
      .error Os.Error.noSuchFile := by
    have hclose : (last.host.close handle).tree.node? [[100]] = none := hnode
    rw [hpath, Host.deleteFile, Store.entryAt_root, hclose]
    rfl
  have hremoved : (last.store.remove last.host).2 =
      .error (.remove [slash, 100] Os.Error.noSuchFile) :=
    Store.remove_eq_error_iff.mpr ⟨handle, _, hhandle, hdeletion, by rw [hpath]⟩
  have hnext : last.next .step = some (last.remove ⟨1, true, none⟩) := by
    change last.step = _
    rw [step, hphase]
  have hreturned : (last.remove ⟨1, true, none⟩).phase =
      .returned (.error ⟨1, true, some (.remove [slash, 100] Os.Error.noSuchFile)⟩) := by
    change DrainPhase.returned (DrainReport.enter (last.store.remove last.host).2 _).result = _
    rw [hremoved]
    rfl
  have hfinal := foldlM_snoc_eq_some_iff.mpr ⟨last, hlast, hnext⟩
  obtain ⟨-, hreturns, -⟩ := drained_of_run (fun _ => rfl) hfinal
  obtain ⟨hrequested, hclosed, before, earlier, later, report, -, -, -, -, hdrained, -, hresult⟩ :=
    hreturns _ hreturned
  cases hresult nofun
  exact ⟨_, _, _, before, earlier, _, Store.create_staleHost, hfinal, hreturned, hrequested,
    hclosed, hdrained⟩

end Example

end Draining

end LineLog
