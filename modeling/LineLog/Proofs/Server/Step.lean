import LineLog.Proofs.Acceptor.Phase
import LineLog.Proofs.Client
import LineLog.Proofs.Log.Append
import LineLog.Proofs.Run
import LineLog.Server.Run

/-!
# What a step of a server does

A step of a server is one of few kinds, and each of them changes little: which
part of the state it changes and what it requires is said here once.  Only two
kinds of steps append to the log, and only one closes it.
-/

namespace LineLog

namespace ServerPhase

/-- The server is being started, and nothing runs besides the main thread. -/
def isStarting : ServerPhase → Bool
  | .binding | .openingPoller | .detaching | .blockingSignals | .startingListener
  | .startingTicker => true
  | _ => false

def hasWorkers : ServerPhase → Bool
  | .accepting _ | .triggering _ | .joiningTicker _ | .joiningWorkers _ _ => true
  | _ => false

def hasTicker : ServerPhase → Bool
  | .accepting _ | .triggering _ | .joiningTicker _ => true
  | _ => false

def hasEnded : ServerPhase → Bool
  | .ended _ => true
  | _ => false

variable {phase : ServerPhase}

theorem hasWorkers_of_isStarting (hstarting : phase.isStarting) : phase.hasWorkers = false := by
  cases phase <;> first | rfl | cases hstarting

theorem hasEnded_of_isStarting (hstarting : phase.isStarting) : phase.hasEnded = false := by
  cases phase <;> first | rfl | cases hstarting

theorem hasWorkers_of_hasTicker (hticker : phase.hasTicker) : phase.hasWorkers := by
  cases phase <;> first | rfl | cases hticker

theorem hasTicker_of_hasWorkers (hidle : phase.hasWorkers = false) :
    phase.hasTicker = false := by
  rw [Bool.eq_false_iff] at hidle ⊢
  exact mt hasWorkers_of_hasTicker hidle

theorem hasEnded_of_hasWorkers (hworkers : phase.hasWorkers) : phase.hasEnded = false := by
  cases phase <;> first | rfl | cases hworkers

end ServerPhase

def TickStep.input (stopping : Bool) : TickStep → TickerInput
  | .schedule => .schedule
  | .look => .look stopping
  | .append _ _ _ => .append
  | .panic => .panic

namespace Server

/-- What a step would append and how the system would meet it, if the step is an
append. -/
def attempt? (server : Server) : ServerEvent → Option (Entry × Obstacles)
  | .serve number (.append obstacles) =>
      (server.clients.get number).message?.map fun message =>
        (⟨.client number, message⟩, obstacles)
  | .tick (.append obstacles instant offset) =>
      some (⟨.ticker, Timestamp.recordBytes instant offset⟩, obstacles)
  | _ => none

inductive Stepped (server : Server) : ServerEvent → Server → Prop where
  | arrived (number : Nat) (bytes : Bytes)
      (hunfinished : (server.clients.get number).finished = false) :
      Stepped server (.arrive number bytes)
        { server with
          clients := server.clients.set number ((server.clients.get number).arrive bytes) }
  | finished (number : Nat) :
      Stepped server (.finish number)
        { server with
          clients :=
            server.clients.set number { server.clients.get number with finished := true } }
  | triggered : Stepped server .trigger { server with stopping := true }
  | began (fault : Option Os.Error) (phase : ServerPhase) (ticker : Option TickerPhase)
      (hbefore : server.phase.isStarting)
      (hphase : phase.isStarting ∨ phase = .accepting .beforePoll ∨
        ∃ error, phase = .discarding error)
      (hticker : ticker = server.ticker ∨ ticker = none ∨
        phase = .accepting .beforePoll ∧ ticker = some .scheduling) :
      Stepped server (.main fault) { server with phase, ticker }
  | stopped (fault : Option Os.Error) (accepted : Except ServerError Unit)
      (hphase : server.phase = .triggering accepted) :
      Stepped server (.main fault)
        { server with phase := .joiningTicker accepted, stopping := true }
  | joinedTicker (fault : Option Os.Error) (accepted : Except ServerError Unit)
      (panicked : Bool) (hphase : server.phase = .joiningTicker accepted)
      (hticker : server.ticker = none ∧ panicked = false ∨
        ∃ ending, server.ticker = some (.ended ending) ∧
          panicked = decide (ending = .panicked)) :
      Stepped server (.main fault)
        { server with phase := .joiningWorkers accepted ⟨0, panicked, none⟩ }
  | joinedWorker (fault : Option Os.Error) (accepted : Except ServerError Unit)
      (report : DrainReport) (number : Nat) (registered : List Nat) (ending : Ending)
      (hphase : server.phase = .joiningWorkers accepted report)
      (hregistered : server.registered = number :: registered)
      (hended : (server.clients.get number).ending = some ending) :
      Stepped server (.main fault)
        { server with
          registered
          phase := .joiningWorkers accepted
            { report with
              panickedWorkers :=
                report.panickedWorkers + if ending = .panicked then 1 else 0 } }
  | joinedAll (fault : Option Os.Error) (accepted : Except ServerError Unit)
      (report : DrainReport) (hphase : server.phase = .joiningWorkers accepted report)
      (hregistered : server.registered = []) :
      Stepped server (.main fault) { server with phase := .removing accepted report }
  | removed (fault : Option Os.Error) (result : Except ServerError Unit)
      (hphase : (∃ accepted report, server.phase = .removing accepted report ∧
          result = outcome accepted { report with store := (server.removeLog fault).2 }) ∨
        ∃ error, server.phase = .discarding error ∧ result = .error error) :
      Stepped server (.main fault)
        { server with
          phase := .ended result
          log := server.log.close.1
          deletions := (server.removeLog fault).1.deletions }
  | accepted (number : Nat) (hphase : server.phase = .accepting .accepting)
      (hfresh : (server.clients.get number).accepted = false) :
      Stepped server (.accept (.accept (.connection number)))
        { server with
          phase := .accepting (.starting number)
          clients :=
            server.clients.set number { server.clients.get number with accepted := true } }
  | started (number : Nat) (hphase : server.phase = .accepting (.starting number)) :
      Stepped server (.accept (.start .started))
        { server with
          phase := .accepting .beforeAccept
          clients := server.clients.set number
            { server.clients.get number with connection := some .initial }
          registered := server.registered ++ [number] }
  | turned (step : AcceptStep Nat) (before following : AcceptPhase Nat) (phase : ServerPhase)
      (hphase : server.phase = .accepting before) (hpermits : server.permits step)
      (hnext : before.next step = some following)
      (hconnection : ∀ number, step ≠ .accept (.connection number))
      (hstart : step ≠ .start .started)
      (hafter : (phase = .accepting following ∧ ∀ accepted, following ≠ .stopped accepted) ∨
        ∃ accepted, following = .stopped accepted ∧ phase = .triggering accepted) :
      Stepped server (.accept step) { server with phase }
  | reaped (number : Nat) (hphase : server.phase = .accepting .sweeping)
      (hregistered : number ∈ server.registered)
      (hended : (server.clients.get number).ending.isSome) :
      Stepped server (.reap number)
        { server with registered := server.registered.erase number }
  | served (number : Nat) (step : ClientStep) (client : Client)
      (hact : (server.clients.get number).act server.path server.stopping step server.log =
        some (client, server.log))
      (hquiet : ∀ obstacles, step ≠ .append obstacles) :
      Stepped server (.serve number step)
        { server with clients := server.clients.set number client }
  | appended (number : Nat) (obstacles : Obstacles) (message : Bytes) (client : Client)
      (hmessage : (server.clients.get number).message? = some message)
      (henter : (server.clients.get number).enter (.append
          ((server.log.append obstacles message).2.mapError (.ofAppend server.path))) =
        some client) :
      Stepped server (.serve number (.append obstacles))
        { server with
          clients := server.clients.set number client
          log := (server.log.append obstacles message).1
          entries := enter (.client number) message (server.log.append obstacles message).2
            server.entries }
  | ticked (step : TickStep) (before phase : TickerPhase)
      (hticker : server.ticker = some before)
      (hnext : before.next (step.input server.stopping) = some phase)
      (hquiet : ∀ obstacles instant offset, step ≠ .append obstacles instant offset) :
      Stepped server (.tick step) { server with ticker := some phase }
  | tickerAppended (obstacles : Obstacles) (instant : Instant) (offset : Int)
      (phase before : TickerPhase) (hticker : server.ticker = some before)
      (hnext : before.next .append = some phase) :
      Stepped server (.tick (.append obstacles instant offset))
        { server with
          ticker := some phase
          log := (server.log.append obstacles (Timestamp.recordBytes instant offset)).1
          entries := enter .ticker (Timestamp.recordBytes instant offset)
            (server.log.append obstacles (Timestamp.recordBytes instant offset)).2
            server.entries }

variable {server after : Server}

private theorem stepped_of_startUp {fault : Option Os.Error} {failure : Os.Error → ServerError}
    {following : ServerPhase} (hbefore : server.phase.isStarting)
    (hfollowing : following.isStarting ∨ following = .accepting .beforePoll) :
    Stepped server (.main fault) (server.startUp fault failure following) := by
  apply Stepped.began fault _ server.ticker hbefore _ (.inl rfl)
  cases fault with
  | none =>
      rcases hfollowing with hstarting | haccepting
      · exact .inl hstarting
      · exact .inr (.inl haccepting)
  | some cause => exact .inr (.inr ⟨failure cause, rfl⟩)

private theorem stepped_of_removeLog {fault : Option Os.Error}
    {result : Except ServerError Unit}
    (hphase : (∃ accepted report, server.phase = .removing accepted report ∧
        result = outcome accepted { report with store := (server.removeLog fault).2 }) ∨
      ∃ error, server.phase = .discarding error ∧ result = .error error) :
    Stepped server (.main fault)
      { (server.removeLog fault).1 with phase := .ended result } := by
  have hframe : (server.removeLog fault).1 =
      { server with
        log := server.log.close.1
        deletions := (server.removeLog fault).1.deletions } := by
    unfold removeLog
    split
    · next hclose => rw [hclose]
    · next hclose => rw [hclose]
  rw [hframe]
  exact .removed fault result hphase

/-- Each phase of the main thread has its own way on. -/
theorem stepped_of_proceed {fault : Option Os.Error}
    (hproceed : server.proceed fault = some after) : Stepped server (.main fault) after := by
  unfold proceed at hproceed
  cases hphase : server.phase with
  | binding | detaching | blockingSignals =>
      rw [hphase] at hproceed
      obtain rfl := Option.some.inj hproceed
      exact stepped_of_startUp (by rw [hphase]; rfl) (.inl rfl)
  | openingPoller =>
      rw [hphase] at hproceed
      obtain rfl := Option.some.inj hproceed
      apply stepped_of_startUp (by rw [hphase]; rfl)
      cases server.settings.daemon with
      | true => exact .inl rfl
      | false => exact .inl rfl
  | startingListener =>
      rw [hphase] at hproceed
      obtain rfl := Option.some.inj hproceed
      apply stepped_of_startUp (by rw [hphase]; rfl)
      cases server.settings.timestampInterval with
      | none => exact .inr rfl
      | some interval => exact .inl rfl
  | startingTicker =>
      rw [hphase] at hproceed
      obtain rfl := Option.some.inj hproceed
      have hbefore : server.phase.isStarting := by rw [hphase]; rfl
      cases fault with
      | none => exact .began none _ _ hbefore (.inr (.inl rfl)) (.inr (.inr ⟨rfl, rfl⟩))
      | some cause =>
          exact .began (some cause) _ _ hbefore (.inr (.inr ⟨.spawn cause, rfl⟩)) (.inr (.inl rfl))
  | accepting phase =>
      rw [hphase] at hproceed
      cases hproceed
  | triggering accepted =>
      rw [hphase] at hproceed
      obtain rfl := Option.some.inj hproceed
      exact .stopped fault accepted hphase
  | joiningTicker accepted =>
      rw [hphase] at hproceed
      dsimp only at hproceed
      split at hproceed
      · next hticker =>
        obtain rfl := Option.some.inj hproceed
        exact .joinedTicker fault accepted false hphase (.inl ⟨hticker, rfl⟩)
      · next ending hticker =>
        obtain rfl := Option.some.inj hproceed
        exact .joinedTicker fault accepted _ hphase (.inr ⟨ending, hticker, rfl⟩)
      · cases hproceed
  | joiningWorkers accepted report =>
      rw [hphase] at hproceed
      dsimp only at hproceed
      split at hproceed
      · next hregistered =>
        obtain rfl := Option.some.inj hproceed
        exact .joinedAll fault accepted report hphase hregistered
      · next number registered hregistered =>
        obtain ⟨ending, hended, rfl⟩ := Option.map_eq_some_iff.mp hproceed
        exact .joinedWorker fault accepted report number registered ending hphase hregistered
          hended
  | removing accepted report =>
      rw [hphase] at hproceed
      obtain rfl := Option.some.inj hproceed
      exact stepped_of_removeLog (.inl ⟨accepted, report, hphase, rfl⟩)
  | discarding error =>
      rw [hphase] at hproceed
      obtain rfl := Option.some.inj hproceed
      exact stepped_of_removeLog (.inr ⟨error, hphase, rfl⟩)
  | ended result =>
      rw [hphase] at hproceed
      cases hproceed

theorem stepped_of_acceptStep {step : AcceptStep Nat}
    (haccept : server.acceptStep step = some after) : Stepped server (.accept step) after := by
  unfold acceptStep at haccept
  split at haccept
  · next before hphase =>
    obtain ⟨hpermits, hmap⟩ := Option.ite_none_right_eq_some.mp haccept
    obtain ⟨following, hnext, hafter⟩ := Option.map_eq_some_iff.mp hmap
    have hturned (hconnection : ∀ number, step ≠ .accept (.connection number))
        (hstart : step ≠ .start .started) (hregister : server.register before step = server) :
        Stepped server (.accept step) after := by
      rw [hregister] at hafter
      subst hafter
      refine .turned step before following _ hphase hpermits hnext hconnection hstart ?_
      cases following with
      | stopped accepted => exact .inr ⟨accepted, rfl, rfl⟩
      | _ => exact .inl ⟨rfl, nofun⟩
    -- only two steps of the loop change what is known of the clients
    cases step with
    | accept result =>
        cases result with
        | connection number =>
            obtain ⟨rfl, rfl⟩ := before.eq_of_next_connection hnext
            subst hafter
            exact .accepted number hphase (Bool.not_eq_eq_eq_not.mp hpermits)
        | _ => exact hturned nofun nofun (by cases before <;> rfl)
    | start result =>
        cases result with
        | started =>
            cases before with
            | starting number =>
                obtain rfl := Option.some.inj hnext
                subst hafter
                exact .started number hphase
            | _ => cases hnext
        | _ => exact hturned nofun nofun (by cases before <;> rfl)
    | look | poll | sweep => exact hturned nofun nofun (by cases before <;> rfl)
  · cases haccept

theorem stepped_of_serve {number : Nat} {step : ClientStep}
    (hserve : server.serve number step = some after) :
    Stepped server (.serve number step) after := by
  obtain ⟨⟨client, log⟩, hact, hafter⟩ := Option.bind_eq_some_iff.mp hserve
  obtain rfl := Option.some.inj hafter
  cases step with
  | append obstacles =>
      cases Client.acted_of_act hact with
      | entered _ _ _ hinput => cases hinput
      | appended _ message _ hmessage henter =>
          simp only [hmessage]
          exact .appended number obstacles message client hmessage henter
  | _ =>
      obtain rfl := Client.log_eq_of_act hact nofun
      exact .served number _ client hact nofun

theorem stepped_of_tick {step : TickStep} (htick : server.tick step = some after) :
    Stepped server (.tick step) after := by
  obtain ⟨before, hticker, hstep⟩ := Option.bind_eq_some_iff.mp htick
  cases step with
  | append obstacles instant offset =>
      obtain ⟨phase, hnext, rfl⟩ := Option.map_eq_some_iff.mp hstep
      exact .tickerAppended obstacles instant offset phase before hticker hnext
  | schedule | look | panic =>
      obtain ⟨phase, hnext, rfl⟩ := Option.map_eq_some_iff.mp hstep
      exact .ticked _ before phase hticker hnext nofun

/-- Every step of the server is one of those listed, with all that it changes. -/
theorem stepped_of_next {event : ServerEvent} (hnext : server.next event = some after) :
    Stepped server event after := by
  cases event with
  | arrive number bytes =>
      obtain ⟨hunfinished, hafter⟩ := Option.ite_none_left_eq_some.mp hnext
      obtain rfl := Option.some.inj hafter
      exact .arrived number bytes (Bool.eq_false_iff.mpr hunfinished)
  | finish number =>
      obtain rfl := Option.some.inj hnext
      exact .finished number
  | trigger =>
      obtain rfl := Option.some.inj hnext
      exact .triggered
  | main fault => exact stepped_of_proceed hnext
  | accept step => exact stepped_of_acceptStep hnext
  | reap number =>
      unfold Server.next at hnext
      dsimp only at hnext
      split at hnext
      · next hphase =>
        obtain ⟨hready, hafter⟩ := Option.ite_none_right_eq_some.mp hnext
        obtain ⟨hmem, hended⟩ := Bool.and_eq_true_iff.mp hready
        obtain rfl := Option.some.inj hafter
        exact .reaped number hphase (of_decide_eq_true hmem) hended
      · cases hnext
  | serve number step => exact stepped_of_serve hnext
  | tick step => exact stepped_of_tick hnext

/-! ## Steps of a run -/

/-- On the run over `events` the step `event` leads from `earlier` to `later`, after the
steps `before`. -/
structure TakesStep (origin : Server) (events before : List ServerEvent) (event : ServerEvent)
    (earlier later : Server) : Prop where
  split : ∃ following, events = before ++ event :: following
  run_before : origin.run before = some earlier
  next : earlier.next event = some later

namespace TakesStep

variable {origin earlier later : Server} {events before : List ServerEvent} {event : ServerEvent}

/-- The step behind a run is the last one of the longer run. -/
theorem last (hrun : origin.run events = some earlier) (hnext : earlier.next event = some later) :
    origin.TakesStep (events ++ [event]) events event earlier later where
  split := ⟨[], rfl⟩
  run_before := hrun
  next := hnext

/-- A step of a run is one of every longer run. -/
theorem extend (hstep : origin.TakesStep events before event earlier later)
    (more : List ServerEvent) : origin.TakesStep (events ++ more) before event earlier later where
  split := by
    obtain ⟨following, rfl⟩ := hstep.split
    exact ⟨following ++ more, by rw [List.append_assoc, List.cons_append]⟩
  run_before := hstep.run_before
  next := hstep.next

theorem prefix_before (hstep : origin.TakesStep events before event earlier later) :
    before <+: events := by
  obtain ⟨following, rfl⟩ := hstep.split
  exact List.prefix_append before _

/-- The rest of the run begins where the step ends. -/
theorem run_following {final : Server}
    (hstep : origin.TakesStep events before event earlier later)
    (hrun : origin.run events = some final) :
    ∃ following, events = before ++ event :: following ∧ later.run following = some final := by
  obtain ⟨following, rfl⟩ := hstep.split
  obtain ⟨middle, hbefore, hrest⟩ := foldlM_append_eq_some_iff.mp hrun
  obtain rfl := Option.some.inj (hstep.run_before.symm.trans hbefore)
  obtain ⟨reached, hnext, hfollowing⟩ := Option.bind_eq_some_iff.mp hrest
  obtain rfl := Option.some.inj (hstep.next.symm.trans hnext)
  exact ⟨following, rfl, hfollowing⟩

end TakesStep

theorem tickerRuns_of_next {before phase : TickerPhase} {input : TickerInput}
    (hticker : server.ticker = some before) (hticks : before.next input = some phase) :
    server.tickerRuns := by
  simp only [tickerRuns, hticker]
  cases before with
  | ended => cases hticks
  | _ => rfl

theorem busy_of_serve {number : Nat} {step : ClientStep}
    (hserve : server.serve number step = some after) : server.Busy := by
  obtain ⟨⟨client, log⟩, hact, -⟩ := Option.bind_eq_some_iff.mp hserve
  exact .inr ⟨number, Client.isServed_of_act hact⟩

theorem busy_of_tick {step : TickStep} (htick : server.tick step = some after) :
    server.Busy := by
  cases stepped_of_tick htick with
  | ticked step before phase hticker hticks => exact .inl (tickerRuns_of_next hticker hticks)
  | tickerAppended obstacles instant offset phase before hticker hticks =>
      exact .inl (tickerRuns_of_next hticker hticks)

/-- Only tasks that run append. -/
theorem busy_of_attempt {event : ServerEvent} {entry : Entry} {obstacles : Obstacles}
    (hnext : server.next event = some after)
    (hattempt : server.attempt? event = some (entry, obstacles)) : server.Busy := by
  cases event with
  | serve number step => exact busy_of_serve hnext
  | tick step => exact busy_of_tick hnext
  | _ => cases hattempt

end Server

end LineLog
