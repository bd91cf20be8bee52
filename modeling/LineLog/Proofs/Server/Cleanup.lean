import LineLog.Proofs.Drain.Report
import LineLog.Proofs.Server.Course
import LineLog.Proofs.Store.Append

/-!
# Cleaning up

However a server ends, it removes its store on the way, and nothing else does: when it could
not be started, and as the last step of the drain, which follows the accept loop whatever
that has ended with.  Nobody runs by then, so the file is deleted once and stays deleted,
unless the host refuses it.  The result of the server tells whether anything went wrong.
-/

namespace LineLog

namespace ServerPhase

variable {phase : ServerPhase}

theorem hasWorkers_of_isRemoving (hremoving : phase.isRemoving) : phase.hasWorkers = false := by
  cases phase <;> first | rfl | cases hremoving

theorem isStarting_of_isRemoving (hremoving : phase.isRemoving) : phase.isStarting = false := by
  cases phase <;> first | rfl | cases hremoving

end ServerPhase

namespace Server

variable {server after : Server} {event : ServerEvent}

/-- What the server ends with if deleting the file of its log has failed with `failure` or,
for `none`, has succeeded. -/
def resultOf (failure : Option Os.Error) (server : Server) : Except ServerError Unit :=
  match server.phase with
  | .removing accepted report =>
      outcome accepted { report with store := failure.map (.remove server.path) }
  | .discarding error => .error error
  | _ => .ok ()

/-- The removal of an open log tries to delete the file and ends the server. -/
theorem ended_of_next {failure : Option Os.Error} (hremoving : server.phase.isRemoving)
    (hopen : server.log.file.isSome) (hnext : server.next (.main failure) = some after) :
    after.phase = .ended (server.resultOf failure) ∧
      after.deletions = server.deletions ++ [failure] ∧ after.ticker = server.ticker := by
  have hclose : server.log.close = (⟨[], none⟩, true) := by
    obtain ⟨file, hfile⟩ := Option.isSome_iff_exists.mp hopen
    simp only [Log.close, hfile]
  have hproceed : server.proceed failure = some after := hnext
  unfold proceed removeLog at hproceed
  unfold resultOf
  cases hphase : server.phase with
  | removing | discarding =>
      simp only [hphase, hclose] at hproceed
      obtain rfl := Option.some.inj hproceed
      exact ⟨rfl, rfl, rfl⟩
  | _ =>
      rw [hphase] at hremoving
      cases hremoving

/-- No other step ends the server or tries to delete the file. -/
theorem running_of_next (hrunning : server.phase.hasEnded = false)
    (hremoving : server.phase.isRemoving → ∀ fault, event ≠ .main fault)
    (hnext : server.next event = some after) :
    after.phase.hasEnded = false ∧ after.deletions = server.deletions := by
  cases stepped_of_next hnext with
  | arrived | finished | triggered | reaped | served | appended | ticked | tickerAppended =>
      exact ⟨hrunning, rfl⟩
  | stopped | joinedTicker | joinedWorker | joinedAll | accepted | started => exact ⟨rfl, rfl⟩
  | began _ _ _ _ hfollowing =>
      refine ⟨?_, rfl⟩
      rcases hfollowing with hstarting | rfl | ⟨error, rfl⟩
      · exact ServerPhase.hasEnded_of_isStarting hstarting
      · rfl
      · rfl
  | turned _ _ _ _ _ _ _ _ _ hfollowing =>
      refine ⟨?_, rfl⟩
      rcases hfollowing with ⟨rfl, -⟩ | ⟨accepted, -, rfl⟩ <;> rfl
  | removed fault result hphase =>
      have hlast : server.phase.isRemoving := by
        rcases hphase with ⟨accepted, report, hphase, -⟩ | ⟨error, hphase, -⟩ <;>
          rw [hphase] <;> rfl
      exact absurd rfl (hremoving hlast fault)

/-- When the server has ended, nothing happens to it any more. -/
theorem still_of_next {result : Except ServerError Unit} (htended : server.Tended)
    (hended : server.phase = .ended result) (hnext : server.next event = some after) :
    after.phase = .ended result ∧ after.deletions = server.deletions ∧
      after.ticker = server.ticker := by
  have hstill {before phase : TickerPhase} {input : TickerInput}
      (hticker : server.ticker = some before) (hticks : before.next input = some phase) :
      False := by
    have hruns := htended.ticker (tickerRuns_of_next hticker hticks)
    rw [hended] at hruns
    cases hruns
  cases stepped_of_next hnext with
  | arrived | finished | triggered | served | appended => exact ⟨hended, rfl, rfl⟩
  | ticked step before phase hticker hticks => exact (hstill hticker hticks).elim
  | tickerAppended obstacles instant offset phase before hticker hticks =>
      exact (hstill hticker hticks).elim
  | began _ _ _ hstarting =>
      rw [hended] at hstarting
      cases hstarting
  | stopped _ _ hphase | joinedTicker _ _ _ hphase | joinedWorker _ _ _ _ _ _ hphase
  | joinedAll _ _ _ hphase | accepted _ hphase | started _ hphase | turned _ _ _ _ hphase
  | reaped _ hphase =>
      rw [hended] at hphase
      cases hphase
  | removed _ _ hphase =>
      rcases hphase with ⟨accepted, report, hphase, -⟩ | ⟨error, hphase, -⟩ <;>
        rw [hended] at hphase <;> cases hphase

/-- The path of the log stays what it was when the server was made. -/
theorem path_of_next (hnext : server.next event = some after) : after.path = server.path := by
  cases stepped_of_next hnext <;> rfl

end Server

namespace HostedServer

variable {origin hosted after : HostedServer} {events : List HostedEvent} {event : HostedEvent}
  {phase : ServerPhase}

/-! ## The drain -/

section Drain

variable (origin : HostedServer) (events : List HostedEvent)
  (accepted : Except ServerError Unit)

def Requests : Prop :=
  ∃ before event earlier later, TakesStep next origin events before event earlier later ∧
    earlier.server.phase = .triggering accepted ∧
    later.server.phase = .joiningTicker accepted ∧ later.server.stopping

def JoinsTicker : Prop :=
  ∃ before event earlier later, TakesStep next origin events before event earlier later ∧
    Requests origin before accepted ∧ earlier.server.phase = .joiningTicker accepted ∧
    earlier.server.tickerRuns = false ∧
    ∃ report, later.server.phase = .joiningWorkers accepted report

def JoinsAll (report : DrainReport) : Prop :=
  ∃ before event earlier later, TakesStep next origin events before event earlier later ∧
    JoinsTicker origin before accepted ∧
    earlier.server.phase = .joiningWorkers accepted report ∧ earlier.server.registered = [] ∧
    later.server.phase = .removing accepted report

end Drain

/-- The steps of the drain that have led to a phase. -/
def Drained (origin : HostedServer) (events : List HostedEvent) : ServerPhase → Prop
  | .joiningTicker accepted => Requests origin events accepted
  | .joiningWorkers accepted _ => JoinsTicker origin events accepted
  | .removing accepted report => JoinsAll origin events accepted report
  | _ => True

theorem Drained.extend (hdrained : Drained origin events phase) (more : List HostedEvent) :
    Drained origin (events ++ more) phase := by
  cases phase with
  | joiningTicker accepted =>
      obtain ⟨before, event, earlier, later, hstep, hphases⟩ := hdrained
      exact ⟨before, event, earlier, later, hstep.extend more, hphases⟩
  | joiningWorkers accepted report =>
      obtain ⟨before, event, earlier, later, hstep, hphases⟩ := hdrained
      exact ⟨before, event, earlier, later, hstep.extend more, hphases⟩
  | removing accepted report =>
      obtain ⟨before, event, earlier, later, hstep, hphases⟩ := hdrained
      exact ⟨before, event, earlier, later, hstep.extend more, hphases⟩
  | _ => trivial

/-- Each phase of the drain is led to by a step from the one before it. -/
theorem Drained.turn {event : ServerEvent} (server : Server)
    (hdrained : Drained origin events hosted.server.phase)
    (hlast : TakesStep next origin (events ++ [.server event]) events (.server event) hosted after)
    (hafter : after.server.phase = server.phase ∧ after.server.stopping = server.stopping)
    (hnext : hosted.server.next event = some server) :
    Drained origin (events ++ [.server event]) after.server.phase := by
  obtain ⟨hphase, hstopping⟩ := hafter
  have hkept := hdrained.extend [.server event]
  cases Server.stepped_of_next hnext with
  | arrived | finished | triggered | reaped | served | appended | ticked | tickerAppended =>
      rw [hphase]
      exact hkept
  | began fault following ticker _ hfollowing =>
      rw [hphase]
      rcases hfollowing with hstarting | rfl | ⟨error, rfl⟩
      · change Drained origin _ following
        cases following <;> trivial
      · trivial
      · trivial
  | stopped fault accepted htriggering =>
      rw [hphase]
      exact ⟨events, _, hosted, after, hlast, htriggering, hphase, hstopping⟩
  | joinedTicker fault accepted panicked hjoining hticker =>
      rw [hjoining] at hdrained
      rw [hphase]
      refine ⟨events, _, hosted, after, hlast, hdrained, hjoining, ?_, _, hphase⟩
      rcases hticker with ⟨hnone, -⟩ | ⟨ending, hended, -⟩
      · simp [Server.tickerRuns, hnone]
      · simp [Server.tickerRuns, hended]
  | joinedWorker fault accepted report number others ending hjoining =>
      rw [hjoining] at hkept
      rw [hphase]
      exact hkept
  | joinedAll fault accepted report hjoining hregistered =>
      rw [hjoining] at hdrained
      rw [hphase]
      exact ⟨events, _, hosted, after, hlast, hdrained, hjoining, hregistered, hphase⟩
  | removed | accepted | started =>
      rw [hphase]
      trivial
  | turned step before following phase _ _ _ _ _ hfollowing =>
      rw [hphase]
      rcases hfollowing with ⟨rfl, -⟩ | ⟨accepted, -, rfl⟩ <;> trivial

/-! ## The removal -/

/-- Something was tried to be deleted on the way from `earlier` to `later`. -/
def Deletes (earlier later : HostedServer) : Prop :=
  later.store.deletions ≠ earlier.store.deletions

/-- The store is removed while nobody runs, which closes it.  The file is deleted unless
something keeps it from being, and then the tree stays as it is. -/
structure Removes (earlier later : HostedServer) (failure : Option Os.Error) : Prop where
  removing : earlier.server.phase.isRemoving
  idle : ¬ earlier.server.Busy
  closed : later.store.handle = none
  asked : later.store.deletions = earlier.store.deletions ++ [earlier.store.path]
  deleted : failure = none → earlier.host.Deleted earlier.store.path later.host
  kept : failure ≠ none → later.host.tree = earlier.host.tree

structure Unremoved (origin : HostedServer) (events : List HostedEvent)
    (hosted : HostedServer) : Prop where
  running : hosted.server.phase.hasEnded = false
  isSome_handle : hosted.store.handle.isSome
  deletions : hosted.server.deletions = []
  asked : hosted.store.deletions = origin.store.deletions
  none_deletes : ∀ past other reached following,
    TakesStep next origin events past other reached following → ¬ Deletes reached following

/-- The step from `earlier` to `later` has removed the store, and no other step of the run
tries to. -/
structure Ended (origin : HostedServer) (events : List HostedEvent) (hosted : HostedServer)
    (before : List HostedEvent) (event : HostedEvent) (earlier later : HostedServer)
    (failure : Option Os.Error) : Prop where
  step : TakesStep next origin events before event earlier later
  removes : Removes earlier later failure
  once : ∀ past other reached following,
    TakesStep next origin events past other reached following → Deletes reached following →
      past = before
  drained : Drained origin before earlier.server.phase
  deletions : hosted.server.deletions = [failure]
  asked : hosted.store.deletions = origin.store.deletions ++ [origin.store.path]
  phase : hosted.server.phase = .ended (earlier.server.resultOf failure)
  closed : hosted.store.handle = none

def Known (origin : HostedServer) (events : List HostedEvent) (hosted : HostedServer) : Prop :=
  (Unremoved origin events hosted ∧ Course origin events hosted hosted.server.phase ∧
    Drained origin events hosted.server.phase) ∨
  ∃ before event earlier later failure,
    Ended origin events hosted before event earlier later failure ∧
    Course origin events hosted earlier.server.phase

/-- The server shows the log of the store, and knows where its file is. -/
structure Sound (path : Path) (hosted : HostedServer) : Prop where
  log : hosted.server.log = hosted.store.log hosted.host
  server_path : hosted.server.path = path
  store_path : hosted.store.path = path

theorem path_remove (store : Store) (host : Host) : (store.remove host).1.2.path = store.path := by
  have hremoved := Store.removed_remove store host
  generalize store.remove host = outcome at hremoved ⊢
  cases hremoved <;> rfl

/-- On every run the server and the store agree about the log and its file. -/
theorem sound_of_run {settings : Settings} {store : Store} {host : Host}
    (hrun : (initial settings store host).run events = some hosted) :
    hosted.Sound store.path := by
  refine foldlM_induction (fun _ => Sound store.path) ⟨rfl, rfl, rfl⟩ ?_ hrun
  intro events state event following _ hsound hnext
  cases stepped_of_next hnext with
  | changed change => exact ⟨rfl, hsound.server_path, hsound.store_path⟩
  | removed fault server _ hserver =>
      exact ⟨rfl, (Server.path_of_next hserver).trans hsound.server_path,
        (path_remove _ _).trans hsound.store_path⟩
  | moved event server store host _ hserver hremains =>
      exact ⟨rfl, (Server.path_of_next hserver).trans hsound.server_path,
        hremains.path_eq.trans hsound.store_path⟩

/-- Once nobody runs, removing an open store is the one attempt to delete its file. -/
theorem removes_of_remove {failure : Option Os.Error} (server : Server)
    (hremoving : hosted.server.phase.isRemoving) (hidle : ¬ hosted.server.Busy)
    (hopen : hosted.store.handle.isSome)
    (hfailure : failure = fault? (hosted.store.remove hosted.host).2) :
    Removes hosted (ofServer (hosted.store.remove hosted.host).1.2
      (hosted.store.remove hosted.host).1.1 server) failure := by
  have hremoved := Store.removed_remove hosted.store hosted.host
  generalize hosted.store.remove hosted.host = outcome at hremoved hfailure ⊢
  cases hremoved with
  | again hclosed =>
      rw [hclosed] at hopen
      cases hopen
  | deleted handle after _ hdeleted =>
      refine ⟨hremoving, hidle, rfl, rfl, fun _ => hdeleted, ?_⟩
      rw [hfailure]
      exact fun hfailed => absurd rfl hfailed
  | kept handle after cause _ htree =>
      refine ⟨hremoving, hidle, rfl, rfl, ?_, fun _ => htree⟩
      rw [hfailure]
      exact nofun

/-- A step that leaves the removed store alone does not add a second attempt. -/
theorem Ended.snoc {before : List HostedEvent} {first : HostedEvent}
    {earlier later : HostedServer} {failure : Option Os.Error}
    (hended : Ended origin events hosted before first earlier later failure)
    (hrun : origin.run events = some hosted) (hnext : hosted.next event = some after)
    (hphase : after.server.phase = hosted.server.phase)
    (hdeletions : after.server.deletions = hosted.server.deletions)
    (hremains : hosted.store.Remains after.store) :
    Ended origin (events ++ [event]) after before first earlier later failure where
  step := hended.step.extend [event]
  removes := hended.removes
  once past other reached following hstep hdeletes := by
    rcases hstep.of_run_snoc hrun hnext with hold | ⟨-, -, rfl, rfl⟩
    · exact hended.once past other reached following hold hdeletes
    · exact absurd hremains.deletions_eq hdeletes
  drained := hended.drained
  deletions := hdeletions.trans hended.deletions
  asked := hremains.deletions_eq.trans hended.asked
  phase := hphase.trans hended.phase
  closed := by
    have hhandle := hremains.isSome_handle
    rw [hended.closed] at hhandle
    exact Option.isNone_iff_eq_none.mp (Option.isSome_eq_false_iff.mp hhandle)

/-- Nothing is tried to be deleted in a step after which the store is as open as before. -/
theorem Unremoved.snoc (hunremoved : Unremoved origin events hosted)
    (hrun : origin.run events = some hosted) (hnext : hosted.next event = some after)
    (hrunning : after.server.phase.hasEnded = false)
    (hdeletions : after.server.deletions = hosted.server.deletions)
    (hremains : hosted.store.Remains after.store) :
    Unremoved origin (events ++ [event]) after where
  running := hrunning
  isSome_handle := hremains.isSome_handle.trans hunremoved.isSome_handle
  deletions := hdeletions.trans hunremoved.deletions
  asked := hremains.deletions_eq.trans hunremoved.asked
  none_deletes past other reached following hstep hdeletes := by
    rcases hstep.of_run_snoc hrun hnext with hold | ⟨-, -, rfl, rfl⟩
    · exact hunremoved.none_deletes past other reached following hold hdeletes
    · exact hdeletes hremains.deletions_eq

/-- A step of a run on which the store has not been removed yet. -/
theorem Unremoved.known (hunremoved : Unremoved origin events hosted)
    (hcourse : Course origin events hosted hosted.server.phase)
    (hdrained : Drained origin events hosted.server.phase) (htended : hosted.server.Tended)
    (hsound : hosted.Sound origin.store.path) (hrun : origin.run events = some hosted)
    (hnext : hosted.next event = some after) : Known origin (events ++ [event]) after := by
  have hlast : TakesStep HostedServer.next origin (events ++ [event]) events event hosted after :=
    .last hrun hnext
  have hfile : hosted.server.log.file.isSome = hosted.store.handle.isSome := by
    rw [hsound.log, Store.log]
    exact Option.isSome_map ..
  cases stepped_of_next hnext with
  | changed change =>
      exact .inl ⟨hunremoved.snoc hrun hnext hunremoved.running rfl (.refl _),
        hcourse.snoc hrun hnext (fun _ => id) not_pollFails_change id rfl (fun _ => rfl),
        hdrained.extend [_]⟩
  | removed fault server hremoving hserver =>
      right
      have hopen := hunremoved.isSome_handle
      obtain ⟨hended, hdeletions, hticker⟩ :=
        Server.ended_of_next hremoving (hfile.trans hopen) hserver
      have hidle : ¬ hosted.server.Busy := by
        intro hbusy
        have hworkers := htended.hasWorkers_of_busy hbusy
        rw [ServerPhase.hasWorkers_of_isRemoving hremoving] at hworkers
        cases hworkers
      have hremoves := removes_of_remove server hremoving hidle hopen rfl
      refine ⟨events, _, hosted, _, _,
        ⟨hlast, hremoves, ?_, hdrained, ?_, ?_, hended, hremoves.closed⟩,
        hcourse.snoc hrun hnext ?_ not_pollFails_main ?_ rfl fun _ => hticker⟩
      · intro past other reached following hstep hdeletes
        rcases hstep.of_snoc with hold | ⟨hsame, -⟩
        · exact absurd hdeletes (hunremoved.none_deletes past other reached following hold)
        · exact hsame
      · exact hdeletions.trans (by rw [hunremoved.deletions, List.nil_append])
      · rw [hremoves.asked, hunremoved.asked, hsound.store_path]
      · exact fun error => not_startFails error fun _ _ =>
          ServerPhase.isStarting_of_isRemoving hremoving
      · refine not_joinsPanicked fun _ _ accepted report hjoining => ?_
        rw [hjoining] at hremoving
        cases hremoving
  | moved event server store host hremoving hserver hremains =>
      obtain ⟨hrunning, hdeletions⟩ :=
        Server.running_of_next hunremoved.running hremoving hserver
      have hturned := Server.turned_of_next htended hserver hremoving
      exact .inl ⟨hunremoved.snoc hrun hnext hrunning hdeletions hremains,
        hcourse.turn server hrun hnext ⟨rfl, rfl⟩ hturned,
        hdrained.turn server hlast ⟨rfl, rfl⟩ hserver⟩

/-- A step of a run on which the store has been removed. -/
theorem Ended.known {before : List HostedEvent} {first : HostedEvent}
    {earlier later : HostedServer} {failure : Option Os.Error}
    (hended : Ended origin events hosted before first earlier later failure)
    (hcourse : Course origin events hosted earlier.server.phase) (htended : hosted.server.Tended)
    (hrun : origin.run events = some hosted) (hnext : hosted.next event = some after) :
    Known origin (events ++ [event]) after := by
  right
  cases stepped_of_next hnext with
  | changed change =>
      exact ⟨before, first, earlier, later, failure, hended.snoc hrun hnext rfl rfl (.refl _),
        hcourse.snoc hrun hnext (fun _ => id) not_pollFails_change id rfl fun _ => rfl⟩
  | removed fault server hremoving =>
      rw [hended.phase] at hremoving
      cases hremoving
  | moved event server store host hremoving hserver hremains =>
      obtain ⟨hphase, hdeletions, hticker⟩ := Server.still_of_next htended hended.phase hserver
      refine ⟨before, first, earlier, later, failure,
        hended.snoc hrun hnext (hphase.trans hended.phase.symm) hdeletions hremains,
        hcourse.snoc hrun hnext (fun error => not_startFails error ?_) ?_
          (not_joinsPanicked ?_) rfl fun _ => hticker⟩
      · intro cause _
        rw [hended.phase]
        rfl
      · intro cause hfails
        obtain rfl := HostedEvent.server.inj hfails
        simp [Server.next, Server.acceptStep, hended.phase] at hserver
      · intro fault _ accepted report hjoining
        rw [hended.phase] at hjoining
        cases hjoining

/-- One step keeps the course of the run known; the step that removes the store is the one that
completes it. -/
theorem Known.next (hknown : Known origin events hosted) (htended : hosted.server.Tended)
    (hsound : hosted.Sound origin.store.path) (hrun : origin.run events = some hosted)
    (hnext : hosted.next event = some after) : Known origin (events ++ [event]) after := by
  rcases hknown with ⟨hunremoved, hcourse, hdrained⟩ |
    ⟨before, first, earlier, later, failure, hended, hcourse⟩
  · exact hunremoved.known hcourse hdrained htended hsound hrun hnext
  · exact hended.known hcourse htended hrun hnext

/-! ## The whole run -/

/-- A new store is open, and nothing was tried to be deleted. -/
theorem fresh_of_create {path : Path} {host created : Host} {store : Store}
    (hcreate : Store.create path host = .ok (created, store)) :
    store.handle.isSome ∧ store.deletions = [] := by
  unfold Store.create at hcreate
  split at hcreate
  · cases hcreate
  · obtain ⟨rfl, rfl⟩ := Prod.mk.inj (Except.ok.inj hcreate)
    exact ⟨rfl, rfl⟩

/-- What a run has come to is known, for every order of the steps of all threads. -/
theorem known_of_run {settings : Settings} {store : Store} {host : Host}
    (hopen : store.handle.isSome) (hrun : (initial settings store host).run events = some hosted) :
    Known (initial settings store host) events hosted := by
  refine foldlM_induction (fun events state => Known (initial settings store host) events state)
    ?_ ?_ hrun
  · have hquiet : ∀ past other reached following,
        TakesStep next (initial settings store host) [] past other reached following →
          ¬ Deletes reached following := by
      intro past other reached following hstep
      obtain ⟨rest, hnil⟩ := hstep.split
      simp at hnil
    refine .inl ⟨⟨rfl, hopen, rfl, rfl, hquiet⟩,
      ⟨?_, ?_, nofun, fun _ => not_meets_nil, nofun⟩, trivial⟩
    · exact fun error => iff_of_false not_meets_nil nofun
    · exact fun cause => iff_of_false not_meets_nil nofun
  · intro events state event following hevents hknown hnext
    exact hknown.next (tended_of_run hevents) (sound_of_run hevents) hevents hnext

end HostedServer

/-- Running the server succeeds exactly if both the accept loop and the drain have. -/
theorem Server.outcome_eq_ok_iff {accepted : Except ServerError Unit} {report : DrainReport} :
    Server.outcome accepted report = .ok () ↔ accepted = .ok () ∧ report.isClean := by
  unfold outcome
  cases accepted with
  | error error => exact ⟨nofun, nofun⟩
  | ok =>
      cases report.isClean with
      | true => exact ⟨fun _ => ⟨rfl, rfl⟩, fun _ => rfl⟩
      | false => exact ⟨nofun, nofun⟩

namespace HostedServer

/-- The result tells exactly whether anything has gone wrong. -/
theorem Course.result_eq_ok_iff {last : HostedServer} {failure : Option Os.Error}
    (hcourse : Course origin events hosted last.server.phase)
    (hremoving : last.server.phase.isRemoving) :
    last.server.resultOf failure = .ok () ↔
      (∀ error, ¬ Meets next origin events (StartFails error)) ∧
      (∀ cause, ¬ Meets next origin events (PollFails cause)) ∧
      ¬ Meets next origin events JoinsPanicked ∧
      hosted.server.ticker ≠ some (.ended .panicked) ∧ failure = none := by
  unfold Server.resultOf
  cases hphase : last.server.phase with
  | discarding error =>
      refine iff_of_false nofun fun hall => hall.1 error ?_
      rw [hcourse.startError, hphase]
      rfl
  | removing accepted report =>
      rw [hphase] at hcourse
      have hreports := hcourse.reports report rfl
      have hstarts (error : ServerError) : ¬ Meets next origin events (StartFails error) :=
        mt (hcourse.startError error).mp nofun
      have hpolls : accepted = .ok () ↔
          ∀ cause, ¬ Meets next origin events (PollFails cause) := by
        simp only [hcourse.pollError]
        cases haccepted : accepted with
        | ok => exact iff_of_true rfl nofun
        | error error =>
            obtain ⟨cause, rfl⟩ := hcourse.accepted error (by rw [haccepted]; rfl)
            exact iff_of_false nofun fun hnone => hnone cause rfl
      have hworkers : report.panickedWorkers = 0 ↔ ¬ Meets next origin events JoinsPanicked := by
        rw [hreports.workers, not_not]
      have hticker : report.tickerPanicked = false ↔
          hosted.server.ticker ≠ some (.ended .panicked) := by
        rw [← Bool.not_eq_true, hreports.ticker]
      dsimp only
      rw [Server.outcome_eq_ok_iff, DrainReport.isClean_iff, hpolls, hworkers, hticker,
        Option.map_eq_none_iff]
      exact (and_iff_right hstarts).symm
  | _ =>
      rw [hphase] at hremoving
      cases hremoving

/-- An error while the server starts is the result, whatever becomes of the file. -/
theorem Course.result_of_startFails {last : HostedServer} {failure : Option Os.Error}
    {error : ServerError} (hcourse : Course origin events hosted last.server.phase)
    (hfails : Meets next origin events (StartFails error)) :
    last.server.resultOf failure = .error error := by
  rw [hcourse.startError] at hfails
  unfold Server.resultOf
  cases hphase : last.server.phase with
  | discarding cause =>
      rw [hphase] at hfails
      exact congrArg _ (Option.some.inj hfails)
  | _ =>
      rw [hphase] at hfails
      cases hfails

/-- A failing poll outweighs whatever the drain has found. -/
theorem Course.result_of_pollFails {last : HostedServer} {failure : Option Os.Error}
    {cause : Os.Error} (hcourse : Course origin events hosted last.server.phase)
    (hremoving : last.server.phase.isRemoving)
    (hfails : Meets next origin events (PollFails cause)) :
    last.server.resultOf failure = .error (.poll cause) ∧
      ∃ report, last.server.phase = .removing (.error (.poll cause)) report := by
  rw [hcourse.pollError] at hfails
  unfold Server.resultOf
  cases hphase : last.server.phase with
  | removing accepted report =>
      rw [hphase] at hfails
      obtain rfl := Option.some.inj hfails
      exact ⟨rfl, report, rfl⟩
  | discarding error =>
      rw [hphase] at hfails
      cases hfails
  | _ =>
      rw [hphase] at hremoving
      cases hremoving

/-- A server whose store has been created and that has ended has tried to delete the file
once, while nobody ran.  Since then the store is closed and every append is refused, and at
that moment the file was gone, unless it could not be deleted.  The result is a success exactly
if no step failed to start the server, the poll did not fail, no worker that the drain has
joined and no ticker has panicked, and the file was deleted.  If the server could not be
started, the result is the reason.  If the poll has failed, the result is that failure, and
the drain was gone through nevertheless. -/
theorem removed_once_of_run {settings : Settings} {path : Path} {host created : Host}
    {store : Store} {final : HostedServer} {result : Except ServerError Unit}
    (hcreate : Store.create path host = .ok (created, store))
    (hrun : (initial settings store created).run events = some final)
    (hended : final.server.phase = .ended result) :
    ∃ before event earlier later failure,
      (TakesStep next (initial settings store created) events before event earlier later ∧
        earlier.server.phase.isRemoving ∧
        later.store.deletions = earlier.store.deletions ++ [store.path] ∧
        ∀ past other reached following,
          TakesStep next (initial settings store created) events past other reached following →
            Deletes reached following → past = before) ∧
      ¬ earlier.server.Busy ∧
      (final.store.deletions = [store.path] ∧ final.server.deletions = [failure] ∧
        later.store.handle = none ∧
        final.store.handle = none ∧ ¬ final.server.Busy ∧
        ∀ obstacles record,
          (final.store.appendAgainst obstacles record final.host).2 = .error .closed) ∧
      (failure = none → earlier.host.Deleted store.path later.host) ∧
      (failure ≠ none → later.host.tree = earlier.host.tree) ∧
      (result = .ok () ↔
        (∀ error, ¬ Meets next (initial settings store created) events (StartFails error)) ∧
        (∀ cause, ¬ Meets next (initial settings store created) events (PollFails cause)) ∧
        ¬ Meets next (initial settings store created) events JoinsPanicked ∧
        final.server.ticker ≠ some (.ended .panicked) ∧ failure = none) ∧
      (∀ error, Meets next (initial settings store created) events (StartFails error) →
        result = .error error) ∧
      (∀ cause, Meets next (initial settings store created) events (PollFails cause) →
        result = .error (.poll cause) ∧
        ∃ report, earlier.server.phase = .removing (.error (.poll cause)) report ∧
          JoinsAll (initial settings store created) before (.error (.poll cause)) report) := by
  obtain ⟨hopen, hfresh⟩ := fresh_of_create hcreate
  rcases known_of_run hopen hrun with
    ⟨hunremoved, -⟩ | ⟨before, event, earlier, later, failure, hlast, hcourse⟩
  · have hrunning := hunremoved.running
    rw [hended] at hrunning
    cases hrunning
  · have hremoving := hlast.removes.removing
    obtain rfl : earlier.server.resultOf failure = result :=
      ServerPhase.ended.inj (hlast.phase.symm.trans hended)
    have hidle : ¬ final.server.Busy := by
      intro hbusy
      have hworkers := (tended_of_run hrun).hasWorkers_of_busy hbusy
      rw [hended] at hworkers
      cases hworkers
    have hpath : earlier.store.path = store.path :=
      (sound_of_run hlast.step.run_before).store_path
    have hasked : final.store.deletions = [store.path] := by
      rw [hlast.asked]
      exact congrArg (· ++ [store.path]) hfresh
    refine ⟨before, event, earlier, later, failure,
      ⟨hlast.step, hremoving, hlast.removes.asked.trans (by rw [hpath]), hlast.once⟩,
      hlast.removes.idle,
      ⟨hasked, hlast.deletions, hlast.removes.closed, hlast.closed, hidle, ?_⟩, ?_,
      hlast.removes.kept, hcourse.result_eq_ok_iff hremoving, ?_, ?_⟩
    · intro obstacles record
      simp only [Store.appendAgainst, hlast.closed]
    · rw [← hpath]
      exact hlast.removes.deleted
    · exact fun error => hcourse.result_of_startFails
    · intro cause hfails
      obtain ⟨hresult, report, hphase⟩ := hcourse.result_of_pollFails hremoving hfails
      have hdrained := hlast.drained
      rw [hphase] at hdrained
      exact ⟨hresult, report, hphase, hdrained⟩

section Example

/-- A worker panics while it is registered, and then the poll fails.  The drain stops the
ticker and joins the worker. -/
private def brokenPollEvents : List ServerEvent :=
  Server.startEvents [0] ++
    [.serve 0 .panic, .accept (.look false), .accept (.accept .wouldBlock), .accept .sweep,
      .accept (.look false), .tick .schedule, .accept (.poll (.failed Os.Error.noSpace)),
      .main none, .tick .look, .main none, .main none, .main none]

private theorem deleteFile_of_nodes {host : Host}
    (hnodes : host.tree.nodes = [([[100]], .file 0)]) :
    ∃ after, host.deleteFile [slash, 100] = .ok after := by
  have hnode : host.tree.node? [[100]] = some (.file 0) := by
    rw [FileTree.node?, hnodes]
    rfl
  exact ⟨_, by unfold Host.deleteFile; rw [Store.entryAt_root, hnode]; rfl⟩

/-- The poll fails while workers run: the file is deleted once all the same, and the error of the
poll is the result. -/
theorem removed_once_of_brokenPollEvents :
    ∃ created store final,
      Store.create [slash, 100] Store.staleHost = .ok (created, store) ∧
      (initial Server.tickingSettings store created).run
        (brokenPollEvents.map .server ++ [.server (.main none)]) = some final ∧
      final.server.phase = .ended (.error (.poll Os.Error.noSpace)) ∧
      final.store.deletions = [store.path] ∧ final.server.deletions = [none] ∧
      final.store.handle = none ∧ ¬ final.server.Busy ∧
      ∃ earlier later : HostedServer, earlier.host.Deleted store.path later.host := by
  have hdrained : ((initial Server.tickingSettings Store.emptiedStore Store.emptiedHost).run
      (brokenPollEvents.map .server)).map (fun hosted =>
        (hosted.server.phase, hosted.server.deletions, hosted.server.log.file.isSome,
          hosted.store, hosted.host.tree.nodes)) =
      some (.removing (.error (.poll Os.Error.noSpace)) ⟨1, false, none⟩, [], true,
        Store.emptiedStore, [([[100]], .file 0)]) := by
    rfl
  obtain ⟨hosted, hrun, hfields⟩ := Option.map_eq_some_iff.mp hdrained
  simp only [Prod.mk.injEq] at hfields
  obtain ⟨hphase, hdeletions, hopen, hstore, hnodes⟩ := hfields
  have hremoving : hosted.server.phase.isRemoving := by rw [hphase]; rfl
  -- nothing keeps the file from being deleted
  obtain ⟨host, hdelete⟩ : ∃ host, (hosted.host.close ⟨0, .file 0, 0⟩).deleteFile [slash, 100] =
      .ok host := deleteFile_of_nodes hnodes
  have hremove : hosted.store.remove hosted.host = ((host, Store.emptiedStore.shut), .ok ()) := by
    have hpath : Store.emptiedStore.path = [slash, 100] := rfl
    have hhandle : Store.emptiedStore.handle = some ⟨0, .file 0, 0⟩ := rfl
    simp only [Store.remove, hstore, hhandle, hpath, hdelete]
  obtain ⟨server, hserver⟩ : ∃ server, hosted.server.next (.main none) = some server := by
    apply Option.isSome_iff_exists.mp
    change (hosted.server.proceed none).isSome
    unfold Server.proceed
    rw [hphase]
    rfl
  obtain ⟨hended, htried, -⟩ := Server.ended_of_next hremoving hopen hserver
  have hnext : hosted.next (.server (.main none)) =
      some (ofServer Store.emptiedStore.shut host server) := by
    change hosted.proceed none = _
    rw [proceed, if_pos hremoving, hremove]
    exact congrArg (Option.map _) hserver
  have hfinal := foldlM_snoc_eq_some_iff.mpr ⟨hosted, hrun, hnext⟩
  have hpoll : (ofServer Store.emptiedStore.shut host server).server.phase =
      .ended (.error (.poll Os.Error.noSpace)) := by
    refine hended.trans ?_
    unfold Server.resultOf
    rw [hphase]
    rfl
  obtain ⟨before, event, earlier, later, failure, -, -,
      ⟨hasked, hlast, -, hclosed, hidle, -⟩, hdeleted, -⟩ :=
    removed_once_of_run Store.create_staleHost hfinal hpoll
  have htwice : [failure] = [none] := by
    refine hlast.symm.trans (htried.trans ?_)
    rw [hdeletions]
    rfl
  obtain rfl := (List.cons.inj htwice).1
  exact ⟨_, _, _, Store.create_staleHost, hfinal, hpoll, hasked, hlast, hclosed, hidle, earlier,
    later, hdeleted rfl⟩

end Example

end HostedServer

end LineLog
