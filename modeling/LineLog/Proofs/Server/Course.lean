import LineLog.Proofs.Server.Hosted

/-!
# The course of the main thread

The main thread starts the server, runs the accept loop and drains the service.  Its phase
tells what has gone wrong on the way: which step failed to start the server, whether the
poll has failed, and what the drain has found.  A step of the run changes this only if it
goes wrong itself, or if the main thread goes from one part of its course to the next.
-/

namespace LineLog

namespace ServerPhase

def startError? : ServerPhase → Option ServerError
  | .discarding error => some error
  | _ => none

def accepted? : ServerPhase → Option (Except ServerError Unit)
  | .triggering accepted | .joiningTicker accepted | .joiningWorkers accepted _
  | .removing accepted _ => some accepted
  | _ => none

def report? : ServerPhase → Option DrainReport
  | .joiningWorkers _ report | .removing _ report => some report
  | _ => none

/-- What the phase tells of the course so far. -/
def findings (phase : ServerPhase) :
    Option ServerError × Option (Except ServerError Unit) × Option DrainReport :=
  (phase.startError?, phase.accepted?, phase.report?)

/-- Nothing is found while the server starts. -/
theorem findings_of_isStarting {phase : ServerPhase} (hstarting : phase.isStarting) :
    phase.findings = (none, none, none) := by
  cases phase <;> first | rfl | cases hstarting

end ServerPhase

namespace Server

variable {server after : Server} {event : ServerEvent}

def startFailure (cause : Os.Error) (server : Server) : ServerError :=
  match server.phase with
  | .binding => .bind server.settings.listen cause
  | .openingPoller => .poll cause
  | .detaching => .daemonize cause
  | .blockingSignals => .signals cause
  | _ => .spawn cause

/-- A step that starts the server succeeds and leads on, or fails and gives the server up. -/
theorem phase_of_next_starting {fault : Option Os.Error}
    (hnext : server.next (.main fault) = some after) (hstarting : server.phase.isStarting) :
    (fault = none ∧ (after.phase.isStarting ∨ after.phase = .accepting .beforePoll)) ∨
      ∃ cause, fault = some cause ∧ after.phase = .discarding (server.startFailure cause) := by
  have hproceed : server.proceed fault = some after := hnext
  unfold proceed at hproceed
  unfold startFailure
  cases hphase : server.phase with
  | binding | detaching | blockingSignals | startingTicker =>
      rw [hphase] at hproceed
      obtain rfl := Option.some.inj hproceed
      cases fault with
      | none => first | exact .inl ⟨rfl, .inl rfl⟩ | exact .inl ⟨rfl, .inr rfl⟩
      | some cause => exact .inr ⟨cause, rfl, rfl⟩
  | openingPoller =>
      rw [hphase] at hproceed
      obtain rfl := Option.some.inj hproceed
      cases fault with
      | none =>
          refine .inl ⟨rfl, .inl ?_⟩
          simp only [startUp]
          split <;> rfl
      | some cause => exact .inr ⟨cause, rfl, rfl⟩
  | startingListener =>
      rw [hphase] at hproceed
      obtain rfl := Option.some.inj hproceed
      cases fault with
      | none =>
          refine .inl ⟨rfl, ?_⟩
          simp only [startUp]
          split
          · exact .inl rfl
          · exact .inr rfl
      | some cause => exact .inr ⟨cause, rfl, rfl⟩
  | accepting | triggering | joiningTicker | joiningWorkers | removing | discarding | ended =>
      rw [hphase] at hstarting
      cases hstarting

/-- A step with which nothing goes wrong and no part of the course ends. -/
structure Smooth (server : Server) (event : ServerEvent) (after : Server) : Prop where
  findings : after.phase.findings = server.phase.findings
  ticker : server.phase.report?.isSome → after.ticker = server.ticker
  starts : ∀ cause, event = .main (some cause) → server.phase.isStarting = false
  polls : ∀ cause, event ≠ .accept (.poll (.failed cause))
  joins : ∀ fault, event = .main fault →
    ∀ accepted report, server.phase = .joiningWorkers accepted report → server.registered = []

/-- How a step changes the course of the main thread, unless it ends it. -/
inductive Turned (server : Server) (event : ServerEvent) (after : Server) : Prop where
  | smooth (hsmooth : Smooth server event after)
  | failed (cause : Os.Error) (hevent : event = .main (some cause))
      (hstarting : server.phase.isStarting)
      (hafter : after.phase = .discarding (server.startFailure cause))
  | left (phase : AcceptPhase Nat) (accepted : Except ServerError Unit)
      (hphase : server.phase = .accepting phase) (hafter : after.phase = .triggering accepted)
      (hpoll : accepted = .ok () ∧ (∀ cause, event ≠ .accept (.poll (.failed cause))) ∨
        ∃ cause, accepted = .error (.poll cause) ∧ event = .accept (.poll (.failed cause)))
      (hmain : ∀ fault, event ≠ .main fault)
  | joinedTicker (fault : Option Os.Error) (accepted : Except ServerError Unit) (panicked : Bool)
      (hevent : event = .main fault) (hphase : server.phase = .joiningTicker accepted)
      (hafter : after.phase = .joiningWorkers accepted ⟨0, panicked, none⟩)
      (hpanicked : panicked ↔ after.ticker = some (.ended .panicked))
  | joinedWorker (fault : Option Os.Error) (accepted : Except ServerError Unit)
      (report : DrainReport) (number : Nat) (others : List Nat) (ending : Ending)
      (hevent : event = .main fault) (hphase : server.phase = .joiningWorkers accepted report)
      (hregistered : server.registered = number :: others)
      (hended : (server.clients.get number).ending = some ending)
      (hafter : after.phase = .joiningWorkers accepted
        { report with
          panickedWorkers := report.panickedWorkers + if ending = .panicked then 1 else 0 })
      (hticker : after.ticker = server.ticker)

namespace Smooth

/-- A step of the accept loop, which goes on. -/
theorem of_accepting {step : AcceptStep Nat} {before following : AcceptPhase Nat}
    (hphase : server.phase = .accepting before) (hafter : after.phase = .accepting following)
    (hpoll : ∀ cause, step ≠ .poll (.failed cause)) : Smooth server (.accept step) after where
  findings := by rw [hphase, hafter]; rfl
  ticker := by
    rw [hphase]
    exact nofun
  starts := nofun
  polls cause hsame := hpoll cause (ServerEvent.accept.inj hsame)
  joins := nofun

/-- A step of somebody else. -/
theorem of_phase (hphase : after.phase = server.phase)
    (hticker : server.phase.report?.isSome → after.ticker = server.ticker)
    (hmain : ∀ fault, event ≠ .main fault) (haccept : ∀ step, event ≠ .accept step) :
    Smooth server event after where
  findings := by rw [hphase]
  ticker := hticker
  starts cause hsame := absurd hsame (hmain _)
  polls cause := haccept _
  joins fault hsame := absurd hsame (hmain fault)

/-- A step that starts the server. -/
theorem of_starting (hstarting : server.phase.isStarting)
    (hafter : after.phase.isStarting ∨ after.phase = .accepting .beforePoll) :
    Smooth server (.main none) after where
  findings := by
    rw [ServerPhase.findings_of_isStarting hstarting]
    rcases hafter with hafter | hafter
    · exact ServerPhase.findings_of_isStarting hafter
    · rw [hafter]
      rfl
  ticker hreport := by
    have hnone := congrArg (·.2.2) (ServerPhase.findings_of_isStarting hstarting)
    rw [show server.phase.report? = none from hnone] at hreport
    cases hreport
  starts := nofun
  polls := nofun
  joins _ _ accepted report hphase := by
    rw [hphase] at hstarting
    cases hstarting

/-- A step of the main thread within the drain. -/
theorem of_main {fault : Option Os.Error} (hticker : after.ticker = server.ticker)
    (hfindings : after.phase.findings = server.phase.findings)
    (hstarted : server.phase.isStarting = false)
    (hjoined : ∀ accepted report, server.phase = .joiningWorkers accepted report →
      server.registered = []) : Smooth server (.main fault) after where
  findings := hfindings
  ticker _ := hticker
  starts _ _ := hstarted
  polls := nofun
  joins _ _ := hjoined

end Smooth

/-- The ticker is not running when the drain has joined it. -/
theorem Tended.report?_eq_none (htended : server.Tended) (hruns : server.tickerRuns) :
    server.phase.report?.isSome = false := by
  have hticker := htended.ticker hruns
  cases hphase : server.phase <;> first | rfl | (rw [hphase] at hticker; cases hticker)

/-- Every step turns the course of the main thread in one of the ways listed, except the one that
ends it. -/
theorem turned_of_next (htended : server.Tended) (hnext : server.next event = some after)
    (hremoving : server.phase.isRemoving → ∀ fault, event ≠ .main fault) :
    Turned server event after := by
  cases stepped_of_next hnext with
  | arrived | finished | triggered | reaped | served | appended =>
      exact .smooth (.of_phase rfl (fun _ => rfl) nofun nofun)
  | ticked step before phase hticker hticks =>
      refine .smooth (.of_phase rfl (fun hreport => ?_) nofun nofun)
      rw [htended.report?_eq_none (tickerRuns_of_next hticker hticks)] at hreport
      cases hreport
  | tickerAppended obstacles instant offset phase before hticker hticks =>
      refine .smooth (.of_phase rfl (fun hreport => ?_) nofun nofun)
      rw [htended.report?_eq_none (tickerRuns_of_next hticker hticks)] at hreport
      cases hreport
  | accepted number hphase => exact .smooth (.of_accepting hphase rfl nofun)
  | started number hphase => exact .smooth (.of_accepting hphase rfl nofun)
  | turned step before following phase hphase _ hturn _ _ hafter =>
      rcases hafter with ⟨rfl, hgoing⟩ | ⟨accepted, rfl, rfl⟩
      · refine .smooth (.of_accepting hphase rfl ?_)
        rintro cause rfl
        exact hgoing _ (AcceptPhase.eq_stopped_of_next hturn)
      · refine .left before accepted hphase rfl ?_ nofun
        rcases AcceptPhase.of_next_stopped hturn with ⟨hok, hpoll⟩ | ⟨cause, hfailed, rfl⟩
        · exact .inl ⟨hok, fun cause hsame => hpoll cause (ServerEvent.accept.inj hsame)⟩
        · exact .inr ⟨cause, hfailed, rfl⟩
  | began fault phase ticker hstarting =>
      rcases phase_of_next_starting hnext hstarting with ⟨rfl, hafter⟩ | ⟨cause, rfl, hafter⟩
      · exact .smooth (.of_starting hstarting hafter)
      · exact .failed cause rfl hstarting hafter
  | stopped fault accepted hphase =>
      exact .smooth (.of_main rfl (by rw [hphase]; rfl) (by rw [hphase]; rfl)
        (by rw [hphase]; exact nofun))
  | joinedTicker fault accepted panicked hphase hticker =>
      refine .joinedTicker fault accepted panicked rfl hphase rfl ?_
      rcases hticker with ⟨hnone, rfl⟩ | ⟨ending, hended, rfl⟩
      · simp [hnone]
      · simp [hended]
  | joinedWorker fault accepted report number others ending hphase hregistered hended =>
      exact .joinedWorker fault accepted report number others ending rfl hphase hregistered
        hended rfl rfl
  | joinedAll fault accepted report hphase hregistered =>
      exact .smooth (.of_main rfl (by rw [hphase]; rfl) (by rw [hphase]; rfl)
        (fun _ _ _ => hregistered))
  | removed fault result hphase =>
      have hlast : server.phase.isRemoving := by
        rcases hphase with ⟨accepted, report, hphase, -⟩ | ⟨error, hphase, -⟩ <;>
          rw [hphase] <;> rfl
      exact absurd rfl (hremoving hlast fault)

end Server

namespace HostedServer

variable {origin hosted after : HostedServer} {events : List HostedEvent} {event : HostedEvent}
  {phase following : ServerPhase}

def StartFails (error : ServerError) (hosted : HostedServer) : HostedEvent → Prop
  | .server (.main (some cause)) =>
      hosted.server.phase.isStarting ∧ hosted.server.startFailure cause = error
  | _ => False

def PollFails (cause : Os.Error) (_ : HostedServer) (event : HostedEvent) : Prop :=
  event = .server (.accept (.poll (.failed cause)))

def JoinsPanicked (hosted : HostedServer) : HostedEvent → Prop
  | .server (.main _) =>
      ∃ accepted report number others, hosted.server.phase = .joiningWorkers accepted report ∧
        hosted.server.registered = number :: others ∧
        (hosted.server.clients.get number).ending = some .panicked
  | _ => False

/-- Once the server has been started it cannot fail to start. -/
theorem not_startFails {event : ServerEvent} (error : ServerError)
    (hstarts : ∀ cause, event = .main (some cause) → hosted.server.phase.isStarting = false) :
    ¬ StartFails error hosted (.server event) := by
  intro hfails
  unfold StartFails at hfails
  split at hfails
  · next cause hsame =>
    rw [hstarts cause (HostedEvent.server.inj hsame)] at hfails
    cases hfails.1
  · exact hfails

/-- Only the accept loop polls. -/
theorem not_pollFails_change {change : Host → Host} (cause : Os.Error) :
    ¬ PollFails cause hosted (.change change) := by
  intro hfails
  cases hfails

theorem not_pollFails_main {fault : Option Os.Error} (cause : Os.Error) :
    ¬ PollFails cause hosted (.server (.main fault)) := by
  intro hfails
  cases hfails

theorem not_joinsPanicked {event : ServerEvent}
    (hjoins : ∀ fault, event = .main fault → ∀ accepted report,
      hosted.server.phase = .joiningWorkers accepted report → hosted.server.registered = []) :
    ¬ JoinsPanicked hosted (.server event) := by
  intro hjoined
  unfold JoinsPanicked at hjoined
  split at hjoined
  · next fault hsame =>
    obtain ⟨accepted, report, number, others, hjoining, hregistered, -⟩ := hjoined
    rw [hjoins fault (HostedEvent.server.inj hsame) accepted report hjoining] at hregistered
    cases hregistered
  · exact hjoined

structure Reports (origin : HostedServer) (events : List HostedEvent) (hosted : HostedServer)
    (report : DrainReport) : Prop where
  store : report.store = none
  ticker : report.tickerPanicked ↔ hosted.server.ticker = some (.ended .panicked)
  workers : Meets next origin events JoinsPanicked ↔ report.panickedWorkers ≠ 0

/-- What the phase tells has happened on the run, and nothing else has gone wrong. -/
structure Course (origin : HostedServer) (events : List HostedEvent) (hosted : HostedServer)
    (phase : ServerPhase) : Prop where
  startError : ∀ error, Meets next origin events (StartFails error) ↔
    phase.startError? = some error
  pollError : ∀ cause, Meets next origin events (PollFails cause) ↔
    phase.accepted? = some (.error (.poll cause))
  accepted : ∀ error, phase.accepted? = some (.error error) → ∃ cause, error = .poll cause
  unjoined : phase.report? = none → ¬ Meets next origin events JoinsPanicked
  reports : ∀ report, phase.report? = some report → Reports origin events hosted report

namespace Course

/-- The course stays what it was while nothing goes wrong. -/
theorem snoc (hcourse : Course origin events hosted phase) (hrun : origin.run events = some hosted)
    (hnext : hosted.next event = some after) (hstart : ∀ error, ¬ StartFails error hosted event)
    (hpoll : ∀ cause, ¬ PollFails cause hosted event) (hjoin : ¬ JoinsPanicked hosted event)
    (hfindings : following.findings = phase.findings)
    (hticker : phase.report?.isSome → after.server.ticker = hosted.server.ticker) :
    Course origin (events ++ [event]) after following := by
  obtain ⟨hstartError, haccepted, hreport⟩ : following.startError? = phase.startError? ∧
      following.accepted? = phase.accepted? ∧ following.report? = phase.report? := by
    simpa [ServerPhase.findings] using hfindings
  refine ⟨?_, ?_, ?_, ?_, ?_⟩
  · intro error
    rw [meets_snoc_iff hrun hnext, or_iff_left (hstart error), hstartError]
    exact hcourse.startError error
  · intro cause
    rw [meets_snoc_iff hrun hnext, or_iff_left (hpoll cause), haccepted]
    exact hcourse.pollError cause
  · rw [haccepted]
    exact hcourse.accepted
  · rw [meets_snoc_iff hrun hnext, or_iff_left hjoin, hreport]
    exact hcourse.unjoined
  · intro report hsome
    rw [hreport] at hsome
    obtain ⟨hstore, htells, hworkers⟩ := hcourse.reports report hsome
    refine ⟨hstore, ?_, ?_⟩
    · rw [hticker (by rw [hsome]; rfl)]
      exact htells
    · rw [meets_snoc_iff hrun hnext, or_iff_left hjoin]
      exact hworkers

/-- A step that fails to start the server begins the removal of the log. -/
theorem fail {cause : Os.Error} (hcourse : Course origin events hosted hosted.server.phase)
    (hrun : origin.run events = some hosted)
    (hnext : hosted.next (.server (.main (some cause))) = some after)
    (hstarting : hosted.server.phase.isStarting) :
    Course origin (events ++ [.server (.main (some cause))]) after
      (.discarding (hosted.server.startFailure cause)) := by
  have hfindings := ServerPhase.findings_of_isStarting hstarting
  simp only [ServerPhase.findings, Prod.mk.injEq] at hfindings
  obtain ⟨hstartError, haccepted, hreport⟩ := hfindings
  have hjoins : ¬ JoinsPanicked hosted (.server (.main (some cause))) := by
    refine not_joinsPanicked fun _ _ accepted report hjoining => ?_
    rw [hjoining] at hstarting
    cases hstarting
  refine ⟨?_, ?_, nofun, ?_, nofun⟩
  · intro error
    rw [meets_snoc_iff hrun hnext, hcourse.startError, hstartError]
    simp [StartFails, hstarting, ServerPhase.startError?]
  · intro other
    rw [meets_snoc_iff hrun hnext, hcourse.pollError, haccepted]
    simp [PollFails, ServerPhase.accepted?]
  · rw [meets_snoc_iff hrun hnext, or_iff_left hjoins]
    exact fun _ => hcourse.unjoined hreport

/-- A step with which the accept loop ends. -/
theorem leave {event : ServerEvent} {loop : AcceptPhase Nat} {accepted : Except ServerError Unit}
    (hcourse : Course origin events hosted hosted.server.phase)
    (hrun : origin.run events = some hosted) (hnext : hosted.next (.server event) = some after)
    (hloop : hosted.server.phase = .accepting loop)
    (hpoll : accepted = .ok () ∧ (∀ cause, event ≠ .accept (.poll (.failed cause))) ∨
      ∃ cause, accepted = .error (.poll cause) ∧ event = .accept (.poll (.failed cause)))
    (hmain : ∀ fault, event ≠ .main fault) :
    Course origin (events ++ [.server event]) after (.triggering accepted) := by
  have hjoins : ¬ JoinsPanicked hosted (.server event) :=
    not_joinsPanicked fun fault hsame => absurd hsame (hmain fault)
  have hstarts (error : ServerError) : ¬ StartFails error hosted (.server event) :=
    not_startFails error fun cause hsame => absurd hsame (hmain _)
  refine ⟨?_, ?_, ?_, ?_, nofun⟩
  · intro error
    rw [meets_snoc_iff hrun hnext, or_iff_left (hstarts error), hcourse.startError, hloop]
    rfl
  · intro cause
    rw [meets_snoc_iff hrun hnext, hcourse.pollError, hloop]
    rcases hpoll with ⟨rfl, hpolled⟩ | ⟨failure, rfl, rfl⟩
    · simp [PollFails, ServerPhase.accepted?, hpolled]
    · simp [PollFails, ServerPhase.accepted?]
  · intro error herror
    obtain rfl := Option.some.inj herror
    rcases hpoll with ⟨hok, -⟩ | ⟨failure, hfailed, -⟩
    · cases hok
    · exact ⟨failure, Except.error.inj hfailed⟩
  · rw [meets_snoc_iff hrun hnext, or_iff_left hjoins]
    exact fun _ => hcourse.unjoined (by rw [hloop]; rfl)

/-- With the join of the ticker the report begins. -/
theorem joinTicker {fault : Option Os.Error} {accepted : Except ServerError Unit}
    {panicked : Bool} (hcourse : Course origin events hosted hosted.server.phase)
    (hrun : origin.run events = some hosted)
    (hnext : hosted.next (.server (.main fault)) = some after)
    (hjoining : hosted.server.phase = .joiningTicker accepted)
    (hpanicked : panicked ↔ after.server.ticker = some (.ended .panicked)) :
    Course origin (events ++ [.server (.main fault)]) after
      (.joiningWorkers accepted ⟨0, panicked, none⟩) := by
  have hjoins : ¬ JoinsPanicked hosted (.server (.main fault)) := by
    refine not_joinsPanicked fun _ _ accepted report hother => ?_
    rw [hjoining] at hother
    cases hother
  have hkept : Course origin (events ++ [.server (.main fault)]) after
      (.joiningTicker accepted) := hcourse.snoc hrun hnext
    (fun error => not_startFails error fun _ _ => by rw [hjoining]; rfl) not_pollFails_main hjoins
    (by rw [hjoining]) (by rw [hjoining]; exact nofun)
  refine ⟨hkept.startError, hkept.pollError, hkept.accepted, nofun, ?_⟩
  intro report hreport
  obtain rfl := Option.some.inj hreport
  exact ⟨rfl, hpanicked, by simp [hkept.unjoined rfl]⟩

/-- The join of a worker goes into the report. -/
theorem joinWorker {fault : Option Os.Error} {accepted : Except ServerError Unit}
    {report : DrainReport} {number : Nat} {others : List Nat} {ending : Ending}
    (hcourse : Course origin events hosted hosted.server.phase)
    (hrun : origin.run events = some hosted)
    (hnext : hosted.next (.server (.main fault)) = some after)
    (hjoining : hosted.server.phase = .joiningWorkers accepted report)
    (hregistered : hosted.server.registered = number :: others)
    (hended : (hosted.server.clients.get number).ending = some ending)
    (hticker : after.server.ticker = hosted.server.ticker) :
    Course origin (events ++ [.server (.main fault)]) after
      (.joiningWorkers accepted
        { report with
          panickedWorkers := report.panickedWorkers + if ending = .panicked then 1 else 0 }) := by
  have hstarts (error : ServerError) : ¬ StartFails error hosted (.server (.main fault)) :=
    not_startFails error fun _ _ => by rw [hjoining]; rfl
  have hreports := hcourse.reports report (by rw [hjoining]; rfl)
  have hjoins : JoinsPanicked hosted (.server (.main fault)) ↔ ending = .panicked := by
    simp [JoinsPanicked, hjoining, hregistered, hended]
  refine ⟨?_, ?_, ?_, nofun, ?_⟩
  · intro error
    rw [meets_snoc_iff hrun hnext, or_iff_left (hstarts error), hcourse.startError, hjoining]
    rfl
  · intro cause
    rw [meets_snoc_iff hrun hnext, or_iff_left (not_pollFails_main cause), hcourse.pollError,
      hjoining]
    rfl
  · intro error
    have haccepted := hcourse.accepted error
    rwa [hjoining] at haccepted
  · intro last hlast
    obtain rfl := Option.some.inj hlast
    refine ⟨hreports.store, ?_, ?_⟩
    · rw [hticker]
      exact hreports.ticker
    · rw [meets_snoc_iff hrun hnext, hreports.workers, hjoins]
      cases ending <;> simp

/-- What goes wrong and what is joined goes into the course. -/
theorem turn {event : ServerEvent} (server : Server)
    (hcourse : Course origin events hosted hosted.server.phase)
    (hrun : origin.run events = some hosted) (hnext : hosted.next (.server event) = some after)
    (hafter : after.server.phase = server.phase ∧ after.server.ticker = server.ticker)
    (hturned : hosted.server.Turned event server) :
    Course origin (events ++ [.server event]) after after.server.phase := by
  obtain ⟨hphase, hticker⟩ := hafter
  rw [hphase]
  cases hturned with
  | smooth hsmooth =>
      refine hcourse.snoc hrun hnext (fun error => not_startFails error hsmooth.starts) ?_
        (not_joinsPanicked hsmooth.joins) hsmooth.findings ?_
      · intro cause hfails
        exact hsmooth.polls cause (HostedEvent.server.inj hfails)
      · exact fun hreport => hticker.trans (hsmooth.ticker hreport)
  | failed cause hevent hstarting hdiscarding =>
      subst hevent
      rw [hdiscarding]
      exact hcourse.fail hrun hnext hstarting
  | left loop accepted hloop htriggering hpoll hmain =>
      rw [htriggering]
      exact hcourse.leave hrun hnext hloop hpoll hmain
  | joinedTicker fault accepted panicked hevent hjoining hjoined hpanicked =>
      subst hevent
      rw [hjoined]
      exact hcourse.joinTicker hrun hnext hjoining (by rw [hticker]; exact hpanicked)
  | joinedWorker fault accepted report number others ending hevent hjoining hregistered hended
      hjoined hkept =>
      subst hevent
      rw [hjoined]
      exact hcourse.joinWorker hrun hnext hjoining hregistered hended (hticker.trans hkept)

end Course

end HostedServer

end LineLog
