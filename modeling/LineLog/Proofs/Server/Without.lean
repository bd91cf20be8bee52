import LineLog.Proofs.Server.Erasure

/-!
# A server without one of its connections

A server that never has a connection goes along with one that has it, and stays where it is
whenever the connection takes a step.  The two agree in everything but the connection, the
file of the log and the number of workers that have panicked; and where their logs are the
same before a step of somebody else, they are the same after it.
-/

namespace LineLog

/-- Where the accept loop, whose step after this is `upcoming`, is if it never comes to a
connection. -/
def AcceptPhase.without (number : Nat) (upcoming : Option (AcceptStep Nat)) :
    AcceptPhase Nat → AcceptPhase Nat
  | .accepting =>
      if upcoming = some (.accept (.connection number)) then .beforeAccept else .accepting
  | .starting client => if client = number then .beforeAccept else .starting client
  | phase => phase

def ServerPhase.Matches (number : Nat) (upcoming : Option (AcceptStep Nat)) :
    ServerPhase → ServerPhase → Prop
  | .accepting phase, other => other = .accepting (phase.without number upcoming)
  | .joiningWorkers accepted _, other => ∃ report, other = .joiningWorkers accepted report
  | .removing accepted _, other => ∃ report, other = .removing accepted report
  | .ended _, other => ∃ result, other = .ended result
  | phase, other => other = phase

variable {number : Nat} {upcoming : Option (AcceptStep Nat)} {following : List ServerEvent}

/-- A step of the accept loop that is none for the connection. -/
theorem AcceptPhase.next_without {phase after : AcceptPhase Nat} {step : AcceptStep Nat}
    (hnext : phase.next step = some after)
    (hconnection : step ≠ .accept (.connection number))
    (hstart : phase = .starting number → ∀ result, step ≠ .start result)
    (hlook : phase = .beforeAccept → step = .look false →
      upcoming ≠ some (.accept (.connection number))) :
    phase.without number (some step) = phase ∧ after.without number upcoming = after := by
  constructor
  · cases phase with
    | accepting => exact if_neg fun hsame => hconnection (Option.some.inj hsame)
    | starting client =>
        refine if_neg ?_
        rintro rfl
        cases step with
        | start result => exact hstart rfl result rfl
        | _ => cases hnext
    | _ => rfl
  · cases after with
    | accepting =>
        obtain ⟨rfl, rfl⟩ := AcceptPhase.eq_of_next_accepting hnext
        exact if_neg (hlook rfl rfl)
    | starting client =>
        obtain rfl := AcceptPhase.eq_of_next_starting hnext
        refine if_neg ?_
        rintro rfl
        exact hconnection rfl
    | _ => rfl

namespace Server

/-- What `other` is like, which has taken the steps of `server` except those of a
connection: nobody can tell the logs apart, all other clients are the same, and nothing has
happened to the client of the connection. -/
structure Without (number : Nat) (upcoming : Option (AcceptStep Nat)) (server other : Server) :
    Prop where
  settings_eq : other.settings = server.settings
  path_eq : other.path = server.path
  phase : server.phase.Matches number upcoming other.phase
  stopping_eq : other.stopping = server.stopping
  log : server.log.Alike other.log
  ticker_eq : other.ticker = server.ticker
  others : ∀ client, client ≠ number → other.clients.get client = server.clients.get client
  untouched : other.clients.get number = .initial
  registered_eq : other.registered = server.registered.filter (· ≠ number)
  entries_eq : other.entries = server.entries
  deletions_eq : other.deletions = server.deletions

theorem without_initial (settings : Settings) (path : Path) (log : Log) (number : Nat)
    (upcoming : Option (AcceptStep Nat)) :
    Without number upcoming (initial settings path log) (initial settings path log) where
  settings_eq := rfl
  path_eq := rfl
  phase := rfl
  stopping_eq := rfl
  log := .refl log
  ticker_eq := rfl
  others _ _ := rfl
  untouched := rfl
  registered_eq := rfl
  entries_eq := rfl
  deletions_eq := rfl

variable {server after other : Server} {event : ServerEvent}

theorem enter_of_alike {log last : Log} (halike : log.Alike last) (author : Author)
    (obstacles : Obstacles) (record : Bytes) (entries : List Entry) :
    enter author record (last.append obstacles record).2 entries =
      enter author record (log.append obstacles record).2 entries := by
  obtain ⟨hfirst, hsecond⟩ | ⟨_, _, hfirst, hsecond⟩ := halike.append_ends obstacles record
  · rw [hfirst, hsecond]
  · rw [hfirst, hsecond]
    rfl

theorem log_register (phase : AcceptPhase Nat) (step : AcceptStep Nat) (server : Server) :
    (server.register phase step).log = server.log := by
  unfold register
  split <;> rfl

theorem log_removeLog (fault : Option Os.Error) (server : Server) :
    (server.removeLog fault).1.log = server.log.close.1 := by
  unfold removeLog
  split
  · next hclose => rw [hclose]
  · next hclose => rw [hclose]

theorem log_removeLog_congr (fault : Option Os.Error) (hsame : other.log = server.log) :
    (other.removeLog fault).1.log = (server.removeLog fault).1.log := by
  rw [log_removeLog, log_removeLog, hsame]

namespace Without

theorem matches_of_phase {phase : ServerPhase} (hwithout : Without number upcoming server other)
    (hphase : server.phase = phase) : phase.Matches number upcoming other.phase :=
  hphase ▸ hwithout.phase

/-! ## Steps of others -/

/-- A step around another client. -/
theorem set_client {client : Nat} {state : Client} (hwithout : Without number upcoming server other)
    (hclient : client ≠ number) :
    Without number upcoming
      { server with clients := server.clients.set client state }
      { other with clients := other.clients.set client state } :=
  { hwithout with
    others := fun second hsecond => by
      by_cases hsame : second = client
      · subst hsame
        simp
      · simp only [Threads.get_set_of_ne _ _ hsame, hwithout.others second hsecond]
    untouched := by
      simp only [Threads.get_set_of_ne _ _ (Ne.symm hclient), hwithout.untouched] }

/-- Starting another worker makes no difference to the one that is missing. -/
theorem register {phase : AcceptPhase Nat} {step : AcceptStep Nat}
    (hwithout : Without number upcoming server other)
    (hconnection : step ≠ .accept (.connection number))
    (hstart : phase = .starting number → ∀ result, step ≠ .start result) :
    Without number upcoming (server.register phase step) (other.register phase step) := by
  unfold Server.register
  split
  · next client =>
    have hclient : client ≠ number := by
      rintro rfl
      exact hconnection rfl
    simp only [hwithout.others client hclient]
    exact hwithout.set_client hclient
  · next client =>
    have hclient : client ≠ number := by
      rintro rfl
      exact hstart rfl _ rfl
    simp only [hwithout.others client hclient]
    exact
      { hwithout.set_client hclient with
        registered_eq := by simp [hwithout.registered_eq, hclient] }
  · exact hwithout

/-- What the loop may find at the socket does not depend on the connection that is left out. -/
theorem permits_eq {step : AcceptStep Nat} (hwithout : Without number upcoming server other)
    (hconnection : step ≠ .accept (.connection number)) :
    other.permits step = server.permits step := by
  unfold permits
  split
  · rw [hwithout.stopping_eq]
  · next client =>
    have hclient : client ≠ number := by
      rintro rfl
      exact hconnection rfl
    rw [hwithout.others client hclient]
  · rfl

/-- A step of the loop that does not concern the connection can be taken without it too. -/
theorem acceptStep {step : AcceptStep Nat} (hwithout : Without number (some step) server other)
    (haccept : server.acceptStep step = some after)
    (hothers : server.belongs number upcoming (.accept step) = false) :
    ∃ moved, other.acceptStep step = some moved ∧ Without number upcoming after moved ∧
      (other.log = server.log → moved.log = after.log) := by
  unfold Server.acceptStep at haccept
  split at haccept
  · next phase hphase =>
    obtain ⟨hpermits, hmap⟩ := Option.ite_none_right_eq_some.mp haccept
    obtain ⟨following, hnext, rfl⟩ := Option.map_eq_some_iff.mp hmap
    have hconnection : step ≠ .accept (.connection number) := by
      rintro rfl
      simp [belongs] at hothers
    have hstart : phase = .starting number → ∀ result, step ≠ .start result := by
      rintro rfl result rfl
      simp [belongs, hphase] at hothers
    have hlook : phase = .beforeAccept → step = .look false →
        upcoming ≠ some (.accept (.connection number)) := by
      rintro rfl rfl
      simpa [belongs, hphase] using hothers
    obtain ⟨hsame, hafter⟩ := phase.next_without hnext hconnection hstart hlook
    have hother : other.phase = .accepting phase :=
      Eq.trans (hwithout.matches_of_phase hphase) (congrArg _ hsame)
    unfold Server.acceptStep
    rw [hother]
    dsimp only
    rw [hwithout.permits_eq hconnection, if_pos hpermits, hnext]
    refine ⟨_, rfl, { hwithout.register hconnection hstart with phase := ?_ }, ?_⟩
    · cases following with
      | stopped accepted => rfl
      | _ => exact congrArg ServerPhase.accepting hafter.symm
    · intro hsame
      change (other.register phase step).log = (server.register phase step).log
      rw [log_register, log_register, hsame]
  · cases haccept

/-- A call that starts the server. -/
theorem startUp {fault : Option Os.Error} {failure : Os.Error → ServerError}
    {following : ServerPhase} (hwithout : Without number upcoming server other)
    (hfollowing : following.Matches number upcoming following) :
    Without number upcoming (server.startUp fault failure following)
      (other.startUp fault failure following) :=
  { hwithout with
    phase := by
      cases fault with
      | none => exact hfollowing
      | some cause => rfl }

/-- Removing the log keeps the two alike. -/
theorem removeLog (hwithout : Without number upcoming server other) (fault : Option Os.Error) :
    Without number upcoming (server.removeLog fault).1 (other.removeLog fault).1 := by
  obtain ⟨hsame, halike⟩ := hwithout.log.close
  unfold Server.removeLog
  rcases hfirst : server.log.close with ⟨log, closed⟩
  rcases hsecond : other.log.close with ⟨last, again⟩
  rw [hfirst, hsecond] at hsame halike
  obtain rfl : again = closed := hsame
  cases again with
  | false => exact { hwithout with log := halike }
  | true =>
      exact
        { hwithout with
          log := halike
          deletions_eq := by rw [hwithout.deletions_eq] }

/-- The drain joins the ticker. -/
theorem joinTicker {fault : Option Os.Error} {accepted : Except ServerError Unit}
    (hwithout : Without number upcoming server other)
    (hphase : server.phase = .joiningTicker accepted)
    (hproceed : server.proceed fault = some after) :
    ∃ moved, other.proceed fault = some moved ∧ Without number upcoming after moved ∧
      (other.log = server.log → moved.log = after.log) := by
  have hother : other.phase = .joiningTicker accepted := hwithout.matches_of_phase hphase
  unfold Server.proceed at hproceed ⊢
  rw [hphase] at hproceed
  rw [hother]
  dsimp only at hproceed ⊢
  rw [hwithout.ticker_eq]
  split at hproceed
  · obtain rfl := Option.some.inj hproceed
    exact ⟨_, rfl, { hwithout with phase := ⟨_, rfl⟩, ticker_eq := rfl }, id⟩
  · obtain rfl := Option.some.inj hproceed
    exact ⟨_, rfl, { hwithout with phase := ⟨_, rfl⟩, ticker_eq := rfl }, id⟩
  · cases hproceed

/-- The drain joins the worker of another client, or there is none left. -/
theorem joinWorkers {fault : Option Os.Error} {accepted : Except ServerError Unit}
    {report : DrainReport} (hwithout : Without number upcoming server other)
    (hphase : server.phase = .joiningWorkers accepted report)
    (hproceed : server.proceed fault = some after)
    (hothers : server.belongs number upcoming (.main fault) = false) :
    ∃ moved, other.proceed fault = some moved ∧ Without number upcoming after moved ∧
      (other.log = server.log → moved.log = after.log) := by
  obtain ⟨second, hother⟩ := hwithout.matches_of_phase hphase
  unfold Server.proceed at hproceed ⊢
  rw [hphase] at hproceed
  rw [hother]
  dsimp only at hproceed ⊢
  rw [hwithout.registered_eq]
  split at hproceed
  · next hregistered =>
    obtain rfl := Option.some.inj hproceed
    rw [hregistered]
    exact ⟨_, rfl, { hwithout with phase := ⟨_, rfl⟩, registered_eq := rfl }, id⟩
  · next client registered hregistered =>
    have hclient : client ≠ number := by
      rintro rfl
      simp [belongs, hphase, hregistered] at hothers
    obtain ⟨ending, hended, rfl⟩ := Option.map_eq_some_iff.mp hproceed
    rw [hregistered, List.filter_cons_of_pos (by simpa using hclient)]
    dsimp only
    rw [hwithout.others client hclient, hended]
    exact ⟨_, rfl, { hwithout with phase := ⟨_, rfl⟩, registered_eq := rfl }, id⟩

/-- A step of the main thread outside the loop, unless it joins the worker of the
connection. -/
theorem proceed {fault : Option Os.Error} (hwithout : Without number upcoming server other)
    (hproceed : server.proceed fault = some after)
    (hothers : server.belongs number upcoming (.main fault) = false) :
    ∃ moved, other.proceed fault = some moved ∧ Without number upcoming after moved ∧
      (other.log = server.log → moved.log = after.log) := by
  cases hphase : server.phase with
  | joiningTicker accepted => exact hwithout.joinTicker hphase hproceed
  | joiningWorkers accepted report => exact hwithout.joinWorkers hphase hproceed hothers
  | binding | openingPoller | detaching | blockingSignals | startingListener =>
      have hother : other.phase = _ := hwithout.matches_of_phase hphase
      unfold Server.proceed at hproceed ⊢
      rw [hphase] at hproceed
      obtain rfl := Option.some.inj hproceed
      rw [hother]
      simp only [hwithout.settings_eq]
      refine ⟨_, rfl, hwithout.startUp ?_, id⟩
      first | rfl | (split <;> rfl)
  | startingTicker =>
      have hother : other.phase = _ := hwithout.matches_of_phase hphase
      have hfollowing : (ServerPhase.accepting .beforePoll).Matches number upcoming
          (.accepting .beforePoll) := rfl
      unfold Server.proceed at hproceed ⊢
      rw [hphase] at hproceed
      obtain rfl := Option.some.inj hproceed
      rw [hother]
      exact ⟨_, rfl, { hwithout.startUp hfollowing with ticker_eq := rfl }, id⟩
  | triggering accepted =>
      have hother : other.phase = _ := hwithout.matches_of_phase hphase
      unfold Server.proceed at hproceed ⊢
      rw [hphase] at hproceed
      obtain rfl := Option.some.inj hproceed
      rw [hother]
      exact ⟨_, rfl, { hwithout with phase := rfl, stopping_eq := rfl }, id⟩
  | removing accepted report =>
      obtain ⟨second, hother⟩ := hwithout.matches_of_phase hphase
      unfold Server.proceed at hproceed ⊢
      rw [hphase] at hproceed
      obtain rfl := Option.some.inj hproceed
      rw [hother]
      exact ⟨_, rfl, { hwithout.removeLog fault with phase := ⟨_, rfl⟩ },
        log_removeLog_congr fault⟩
  | discarding error =>
      have hother : other.phase = _ := hwithout.matches_of_phase hphase
      unfold Server.proceed at hproceed ⊢
      rw [hphase] at hproceed
      obtain rfl := Option.some.inj hproceed
      rw [hother]
      exact ⟨_, rfl, { hwithout.removeLog fault with phase := ⟨_, rfl⟩ },
        log_removeLog_congr fault⟩
  | accepting | ended =>
      unfold Server.proceed at hproceed
      rw [hphase] at hproceed
      cases hproceed

/-- The step of another worker can be taken without the connection too. -/
theorem serve {client : Nat} {step : ClientStep} (hwithout : Without number upcoming server other)
    (hserve : server.serve client step = some after) (hclient : client ≠ number) :
    ∃ moved, other.serve client step = some moved ∧ Without number upcoming after moved ∧
      (other.log = server.log → moved.log = after.log) := by
  obtain ⟨⟨state, log⟩, hact, hafter⟩ := Option.bind_eq_some_iff.mp hserve
  obtain rfl := Option.some.inj hafter
  obtain ⟨last, hlast, halike⟩ := Client.act_of_alike hwithout.log hact
  have hother : (other.clients.get client).act other.path other.stopping step other.log =
      some (state, last) := by
    rw [hwithout.others client hclient, hwithout.path_eq, hwithout.stopping_eq, hlast]
  refine ⟨_, Option.bind_eq_some_iff.mpr ⟨_, hother, rfl⟩,
    { hwithout.set_client hclient with
      log := halike
      entries_eq := ?_ }, ?_⟩
  · rw [hwithout.others client hclient]
    split
    · rw [hwithout.entries_eq, enter_of_alike hwithout.log]
    · exact hwithout.entries_eq
  · intro hsame
    rw [hsame, hact] at hlast
    exact (Prod.mk.inj (Option.some.inj hlast)).2.symm

/-- The step of the ticker can be taken without the connection too. -/
theorem tick {step : TickStep} (hwithout : Without number upcoming server other)
    (htick : server.tick step = some after) :
    ∃ moved, other.tick step = some moved ∧ Without number upcoming after moved ∧
      (other.log = server.log → moved.log = after.log) := by
  unfold Server.tick at htick ⊢
  rw [hwithout.ticker_eq, hwithout.stopping_eq]
  obtain ⟨before, hticker, hstep⟩ := Option.bind_eq_some_iff.mp htick
  rw [hticker]
  cases step with
  | append obstacles instant offset =>
      obtain ⟨phase, hnext, rfl⟩ := Option.map_eq_some_iff.mp hstep
      dsimp only [Option.bind_eq_bind, Option.bind_some]
      rw [hnext]
      refine ⟨_, rfl,
        { hwithout with
          stopping_eq := rfl
          ticker_eq := rfl
          log := hwithout.log.append obstacles _
          entries_eq := ?_ }, fun hsame => by dsimp only; rw [hsame]⟩
      dsimp only
      rw [hwithout.entries_eq, enter_of_alike hwithout.log]
  | schedule | look | panic =>
      obtain ⟨phase, hnext, rfl⟩ := Option.map_eq_some_iff.mp hstep
      dsimp only [Option.bind_eq_bind, Option.bind_some]
      rw [hnext]
      exact ⟨_, rfl, { hwithout with stopping_eq := rfl, ticker_eq := rfl }, id⟩

/-- A step that is none of the connection's is possible without the connection too. -/
theorem next (hwithout : Without number (nextAccept? (event :: following)) server other)
    (hnext : server.next event = some after)
    (hothers : server.belongs number (nextAccept? following) event = false) :
    ∃ moved, other.next event = some moved ∧
      Without number (nextAccept? following) after moved ∧
      (other.log = server.log → moved.log = after.log) := by
  cases event with
  | arrive client bytes =>
      have hclient : client ≠ number := of_decide_eq_false hothers
      obtain ⟨hunfinished, hafter⟩ := Option.ite_none_left_eq_some.mp hnext
      obtain rfl := Option.some.inj hafter
      unfold Server.next
      dsimp only
      rw [hwithout.others client hclient, if_neg hunfinished]
      exact ⟨_, rfl, hwithout.set_client hclient, id⟩
  | finish client =>
      have hclient : client ≠ number := of_decide_eq_false hothers
      obtain rfl := Option.some.inj hnext
      unfold Server.next
      dsimp only
      rw [hwithout.others client hclient]
      exact ⟨_, rfl, hwithout.set_client hclient, id⟩
  | trigger =>
      obtain rfl := Option.some.inj hnext
      exact ⟨_, rfl, { hwithout with stopping_eq := rfl }, id⟩
  | main fault => exact hwithout.proceed hnext hothers
  | accept step => exact hwithout.acceptStep hnext hothers
  | reap client =>
      have hclient : client ≠ number := of_decide_eq_false hothers
      unfold Server.next at hnext ⊢
      dsimp only at hnext ⊢
      split at hnext
      · next hphase =>
        obtain ⟨hready, hafter⟩ := Option.ite_none_right_eq_some.mp hnext
        obtain rfl := Option.some.inj hafter
        have hother : other.phase = .accepting .sweeping := hwithout.matches_of_phase hphase
        have hmem : client ∈ other.registered ↔ client ∈ server.registered := by
          simp [hwithout.registered_eq, hclient]
        rw [hother, hwithout.others client hclient]
        dsimp only
        rw [decide_eq_decide.mpr hmem, if_pos hready]
        refine ⟨_, rfl, { hwithout with phase := ?_, registered_eq := ?_ }, id⟩
        · rw [hphase]
          rfl
        · rw [hwithout.registered_eq, List.erase_filter]
      · cases hnext
  | serve client step => exact hwithout.serve hnext (of_decide_eq_false hothers)
  | tick step => exact hwithout.tick hnext

/-! ## Steps of the connection -/

/-- A step around the client of the connection. -/
theorem set_own {state : Client} (hwithout : Without number upcoming server other) :
    Without number upcoming { server with clients := server.clients.set number state } other :=
  { hwithout with
    others := fun client hclient => by
      simp only [Threads.get_set_of_ne _ _ hclient, hwithout.others client hclient] }

/-- A failed append of the connection. -/
theorem append_own {obstacles : Obstacles} {message : Bytes} {state : Client}
    (hwithout : Without number upcoming server other)
    (hnever : ∀ entry ∈ enter (.client number) message (server.log.append obstacles message).2
      server.entries, entry.author ≠ .client number) :
    Without number upcoming
      { server with
        clients := server.clients.set number state
        log := (server.log.append obstacles message).1
        entries := enter (.client number) message (server.log.append obstacles message).2
          server.entries } other := by
  cases hresult : (server.log.append obstacles message).2 with
  | ok =>
      rw [hresult] at hnever
      exact absurd rfl (hnever ⟨.client number, message⟩
        (List.mem_append_right _ (List.mem_singleton_self _)))
  | error failure =>
      refine { hwithout.set_own with log := ⟨?_, ?_⟩ }
      · rw [Log.bytes_append, hresult]
        exact hwithout.log.bytes_eq.trans (List.append_nil _).symm
      · rw [Log.isSome_file_append]
        exact hwithout.log.isSome_file_eq

/-- A step that the accept loop takes for the connection. -/
theorem acceptStep_own {step : AcceptStep Nat}
    (hwithout : Without number (some step) server other)
    (haccept : server.acceptStep step = some after)
    (hbelongs : server.belongs number upcoming (.accept step)) :
    Without number upcoming after other := by
  obtain rfl | ⟨rfl, hphase, rfl⟩ | ⟨result, rfl, hphase⟩ := accept_of_belongs hbelongs
  · cases stepped_of_acceptStep haccept with
    | accepted _ hphase =>
        have hother : other.phase = .accepting .beforeAccept :=
          Eq.trans (hwithout.matches_of_phase hphase) (congrArg _ (if_pos rfl))
        exact
          { hwithout.set_own with
            phase := hother.trans (congrArg ServerPhase.accepting (if_pos rfl).symm) }
    | turned _ _ _ _ _ _ _ hconnection => exact absurd rfl (hconnection number)
  · have hother : other.phase = .accepting .beforeAccept := hwithout.matches_of_phase hphase
    cases stepped_of_acceptStep haccept with
    | turned _ before following phase hbefore _ hnext _ _ hafter =>
        obtain rfl := ServerPhase.accepting.inj (hphase.symm.trans hbefore)
        obtain rfl := Option.some.inj hnext
        obtain rfl : phase = .accepting .accepting := by simpa using hafter
        exact
          { hwithout with
            phase := hother.trans (congrArg ServerPhase.accepting (if_pos rfl).symm) }
  · have hother : other.phase = .accepting .beforeAccept :=
      Eq.trans (hwithout.matches_of_phase hphase) (congrArg _ (if_pos rfl))
    cases stepped_of_acceptStep haccept with
    | started client hbefore =>
        obtain rfl : number = client := by simpa [hphase] using hbefore
        refine { hwithout.set_own with phase := hother, registered_eq := ?_ }
        rw [hwithout.registered_eq, List.filter_append, List.filter_cons_of_neg (by simp)]
        exact (List.append_nil _).symm
    | turned _ before following phase hbefore _ hnext _ _ hafter =>
        obtain rfl := ServerPhase.accepting.inj (hphase.symm.trans hbefore)
        obtain rfl := Option.some.inj hnext
        obtain rfl : phase = .accepting .beforeAccept := by simpa using hafter
        exact { hwithout with phase := hother }

/-- The worker of the connection is joined at the end. -/
theorem proceed_own {fault : Option Os.Error} (hwithout : Without number upcoming server other)
    (hproceed : server.proceed fault = some after)
    (hbelongs : server.belongs number upcoming (.main fault)) :
    Without number upcoming after other := by
  obtain ⟨⟨accepted, report, hphase⟩, hhead⟩ := joining_of_belongs hbelongs
  have hmatches := hwithout.matches_of_phase hphase
  cases hregistered : server.registered with
  | nil =>
      rw [hregistered] at hhead
      cases hhead
  | cons client registered =>
      rw [hregistered] at hhead
      obtain rfl := Option.some.inj hhead
      unfold Server.proceed at hproceed
      rw [hphase, hregistered] at hproceed
      obtain ⟨ending, -, rfl⟩ := Option.map_eq_some_iff.mp hproceed
      refine { hwithout with phase := hmatches, registered_eq := ?_ }
      rw [hwithout.registered_eq, hregistered]
      exact List.filter_cons_of_neg (by simp)

/-- A step of the connection leaves a server alone that does not have it. -/
theorem stay (hwithout : Without number (nextAccept? (event :: following)) server other)
    (hnext : server.next event = some after)
    (hbelongs : server.belongs number (nextAccept? following) event)
    (hnever : ∀ entry ∈ after.entries, entry.author ≠ .client number) :
    Without number (nextAccept? following) after other := by
  cases event with
  | arrive client bytes =>
      obtain rfl : client = number := of_decide_eq_true hbelongs
      obtain ⟨-, hafter⟩ := Option.ite_none_left_eq_some.mp hnext
      obtain rfl := Option.some.inj hafter
      exact hwithout.set_own
  | finish client =>
      obtain rfl : client = number := of_decide_eq_true hbelongs
      obtain rfl := Option.some.inj hnext
      exact hwithout.set_own
  | trigger | tick => cases hbelongs
  | main fault => exact hwithout.proceed_own hnext hbelongs
  | accept step => exact hwithout.acceptStep_own hnext hbelongs
  | reap client =>
      obtain rfl : client = number := of_decide_eq_true hbelongs
      cases stepped_of_next hnext with
      | reaped _ hphase =>
          refine { hwithout with registered_eq := ?_ }
          rw [← List.erase_filter, List.erase_of_not_mem, hwithout.registered_eq]
          simp
  | serve client step =>
      obtain rfl : client = number := of_decide_eq_true hbelongs
      cases stepped_of_serve hnext with
      | served _ step state => exact hwithout.set_own
      | appended _ obstacles message state => exact hwithout.append_own hnever

end Without

end Server

end LineLog
