import LineLog.Proofs.Server.Continuing
import LineLog.Proofs.Server.Course
import LineLog.Proofs.Server.Framing

/-!
# Winding down

The accept loop and the ticker look at the shutdown flag on their way, but not in the moment
in which they accept or append.  So the flag may be set just after they have looked.  What
they may still do from then on has a budget, which depends on where they are: it covers what
lies in front of their next look at the flag, and every step uses up what it does.
-/

namespace LineLog

/-- How often the accept loop may do something once the flag is set, from wherever it is. -/
structure AcceptBudget where
  happens : AcceptStep Nat → Bool
  left : AcceptPhase Nat → Nat
  spends : ∀ {phase step following}, AcceptPhase.next phase step = some following →
    step ≠ .look false → left following + (if happens step then 1 else 0) ≤ left phase

namespace AcceptBudget

def connections : AcceptBudget where
  happens
    | .accept (.connection _) => true
    | _ => false
  left
    | .accepting => 1
    | _ => 0
  spends hnext hlook := by
    unfold AcceptPhase.next at hnext
    split at hnext <;> cases hnext <;> simp_all

def workers : AcceptBudget where
  happens
    | .start .started => true
    | _ => false
  left
    | .accepting | .starting _ => 1
    | _ => 0
  spends hnext hlook := by
    unfold AcceptPhase.next at hnext
    split at hnext <;> cases hnext <;> simp_all
    split <;> simp

def waits : AcceptBudget where
  happens
    | .poll _ => true
    | _ => false
  left
    | .polling => 1
    | _ => 0
  spends hnext hlook := by
    unfold AcceptPhase.next at hnext
    split at hnext <;> cases hnext <;> simp_all

def steps : AcceptBudget where
  happens _ := true
  left
    | .accepting => 5
    | .starting _ | .polling => 4
    | .beforeAccept => 3
    | .sweeping => 2
    | .beforePoll => 1
    | .stopped _ => 0
  spends hnext hlook := by
    unfold AcceptPhase.next at hnext
    split at hnext <;> cases hnext <;> simp_all

theorem connections_left_le (phase : AcceptPhase Nat) : connections.left phase ≤ 1 := by
  cases phase <;> simp [connections]

theorem workers_left_le (phase : AcceptPhase Nat) : workers.left phase ≤ 1 := by
  cases phase <;> simp [workers]

theorem waits_left_le (phase : AcceptPhase Nat) : waits.left phase ≤ 1 := by
  cases phase <;> simp [waits]

theorem steps_left_le (phase : AcceptPhase Nat) : steps.left phase ≤ 5 := by
  cases phase <;> simp [steps]

/-- What is left of a budget in a phase of the main thread, which may not have reached the
loop yet. -/
def leftIn (budget : AcceptBudget) : ServerPhase → Nat
  | .accepting phase => budget.left phase
  | phase => if phase.isStarting then budget.left .beforePoll else 0

theorem leftIn_of_isStarting (budget : AcceptBudget) {phase : ServerPhase}
    (hstarting : phase.isStarting) : budget.leftIn phase = budget.left .beforePoll := by
  cases phase <;> first | rfl | cases hstarting

/-- The main thread has no more left of a budget than the loop has wherever it is. -/
theorem leftIn_le (budget : AcceptBudget) {bound : Nat}
    (hbound : ∀ phase, budget.left phase ≤ bound) (phase : ServerPhase) :
    budget.leftIn phase ≤ bound := by
  unfold leftIn
  split
  · exact hbound _
  · split
    · exact hbound _
    · exact Nat.zero_le _

/-- Before the loop begins, there is nothing left of a budget that is of no use at its
beginning. -/
theorem leftIn_eq_zero (budget : AcceptBudget) {phase : ServerPhase}
    (hbegin : budget.left .beforePoll = 0)
    (hloop : ∀ loop, phase = .accepting loop → budget.left loop = 0) :
    budget.leftIn phase = 0 := by
  unfold leftIn
  split
  · exact hloop _ rfl
  · split
    · exact hbegin
    · rfl

end AcceptBudget

namespace ServerEvent

def acceptStep? : ServerEvent → Option (AcceptStep Nat)
  | .accept step => some step
  | _ => none

def appendsTick : ServerEvent → Bool
  | .tick (.append _ _ _) => true
  | _ => false

def reaps : ServerEvent → Bool
  | .reap _ => true
  | _ => false

end ServerEvent

def AcceptBudget.spent (budget : AcceptBudget) (events : List ServerEvent) : Nat :=
  events.countP (·.acceptStep?.any budget.happens)

namespace Server

variable {server after final : Server} {event : ServerEvent} {events : List ServerEvent}

theorem stopping_of_next (hnext : server.next event = some after) (hstopping : server.stopping) :
    after.stopping := by
  cases stepped_of_next hnext <;> first | exact hstopping | rfl

/-- Once the flag is set, what happens only at the expense of something that never grows
happens no more often than there is of it. -/
theorem countP_le_of_spends (left : Server → Nat) (happens : ServerEvent → Bool)
    (hspends : ∀ {state event after}, state.next event = some after → state.stopping →
      left after + (if happens event then 1 else 0) ≤ left state)
    (hstopping : server.stopping) (hrun : server.run events = some final) :
    events.countP happens ≤ left server := by
  have hcount := countP_add_le_of_foldlM (fun state : Server => state.stopping) left happens
    (fun state event after _ hstopping hnext =>
      ⟨stopping_of_next hnext hstopping, hspends hnext hstopping⟩) hstopping hrun
  exact (Nat.le_add_right _ _).trans hcount

/-- A step of the accept loop is one of its phase, and it ends the loop if it stops. -/
theorem turned_of_acceptStep {step : AcceptStep Nat}
    (haccept : server.acceptStep step = some after) :
    ∃ before following, server.phase = .accepting before ∧ server.permits step ∧
      before.next step = some following ∧
      (after.phase = .accepting following ∨
        ∃ accepted, following = .stopped accepted ∧ after.phase = .triggering accepted) := by
  unfold acceptStep at haccept
  split at haccept
  · next before hphase =>
    obtain ⟨hpermits, hmap⟩ := Option.ite_none_right_eq_some.mp haccept
    obtain ⟨following, hnext, rfl⟩ := Option.map_eq_some_iff.mp hmap
    refine ⟨before, following, hphase, hpermits, hnext, ?_⟩
    cases following with
    | stopped accepted => exact .inr ⟨accepted, rfl, rfl⟩
    | _ => exact .inl rfl
  · cases haccept

/-- Whatever is not a step of the loop takes nothing from a budget and adds nothing to it. -/
theorem leftIn_of_next_other (budget : AcceptBudget) (hnext : server.next event = some after)
    (hother : event.acceptStep? = none) :
    budget.leftIn after.phase ≤ budget.leftIn server.phase := by
  cases stepped_of_next hnext with
  | arrived | finished | triggered | reaped | served | appended | ticked | tickerAppended =>
      exact Nat.le_refl _
  | began fault phase ticker hbefore hphase =>
      rw [budget.leftIn_of_isStarting hbefore]
      rcases hphase with hstarting | rfl | ⟨error, rfl⟩
      · exact Nat.le_of_eq (budget.leftIn_of_isStarting hstarting)
      · exact Nat.le_refl _
      · exact Nat.zero_le _
  | stopped | joinedTicker | joinedWorker | joinedAll | removed => exact Nat.zero_le _
  | accepted | started | turned => cases hother

/-- A step that spends from a budget has something to spend, and no step adds to it. -/
theorem leftIn_of_next (budget : AcceptBudget) (hnext : server.next event = some after)
    (hstopping : server.stopping) :
    budget.leftIn after.phase + (if event.acceptStep?.any budget.happens then 1 else 0) ≤
      budget.leftIn server.phase := by
  cases hevent : event.acceptStep? with
  | none => exact leftIn_of_next_other budget hnext hevent
  | some step =>
      cases event with
      | accept taken =>
          obtain rfl := Option.some.inj hevent
          obtain ⟨before, following, hphase, hpermits, hturn, hafter⟩ := turned_of_acceptStep hnext
          have hlook : taken ≠ .look false := by
            rintro rfl
            rw [permits, hstopping] at hpermits
            cases hpermits
          have hspent := budget.spends hturn hlook
          rw [hphase]
          rcases hafter with hafter | ⟨accepted, rfl, hafter⟩
          · rw [hafter]
            exact hspent
          · rw [hafter]
            exact (Nat.add_le_add_right (Nat.zero_le _) _).trans hspent
      | _ => cases hevent

/-- Once the flag is set, the accept loop keeps to every budget. -/
theorem spent_le_leftIn (budget : AcceptBudget) (hstopping : server.stopping)
    (hrun : server.run events = some final) : budget.spent events ≤ budget.leftIn server.phase :=
  countP_le_of_spends (fun state => budget.leftIn state.phase) _ (leftIn_of_next budget) hstopping
    hrun

/-- No run spends more than the budget allows. -/
theorem spent_le (budget : AcceptBudget) {bound : Nat} (hbound : ∀ phase, budget.left phase ≤ bound)
    (hstopping : server.stopping) (hrun : server.run events = some final) :
    budget.spent events ≤ bound :=
  (spent_le_leftIn budget hstopping hrun).trans (budget.leftIn_le hbound _)

theorem spent_eq_zero (budget : AcceptBudget) (hbegin : budget.left .beforePoll = 0)
    (hloop : ∀ loop, server.phase = .accepting loop → budget.left loop = 0)
    (hstopping : server.stopping) (hrun : server.run events = some final) :
    budget.spent events = 0 :=
  Nat.le_zero.mp (budget.leftIn_eq_zero hbegin hloop ▸ spent_le_leftIn budget hstopping hrun)

/-! ## The ticker -/

def ticksLeft (server : Server) : Nat :=
  if server.ticker = some .appending then 1 else 0

/-- A ticker that sees the flag does not append any more. -/
theorem ticksLeft_of_next (hnext : server.next event = some after) (hstopping : server.stopping) :
    after.ticksLeft + (if event.appendsTick then 1 else 0) ≤ server.ticksLeft := by
  cases stepped_of_next hnext with
  | arrived | finished | triggered | reaped | served | appended | stopped | joinedTicker
  | joinedWorker | joinedAll | removed | accepted | started | turned => exact Nat.le_refl _
  | began fault phase ticker hbefore hphase hticker =>
      rcases hticker with rfl | rfl | ⟨-, rfl⟩
      · exact Nat.le_refl _
      · exact Nat.zero_le _
      · exact Nat.zero_le _
  | ticked step before phase hticker hticks hquiet =>
      -- the ticker appends only after a look at the flag that does not find it set
      have hphase : phase ≠ .appending := by
        rintro rfl
        rw [hstopping] at hticks
        cases before <;> cases step <;> cases hticks
      have hother : (ServerEvent.tick step).appendsTick = false := by
        cases step with
        | append obstacles instant offset => exact absurd rfl (hquiet obstacles instant offset)
        | _ => rfl
      simp [ticksLeft, hphase, hother]
  | tickerAppended obstacles instant offset phase before hticker hticks =>
      cases before with
      | appending =>
          obtain rfl := Option.some.inj hticks
          simp [ticksLeft, hticker, ServerEvent.appendsTick]
      | _ => cases hticks

/-- The ticker appends once more at most. -/
theorem countP_appendsTick_le (hstopping : server.stopping)
    (hrun : server.run events = some final) : events.countP (·.appendsTick) ≤ server.ticksLeft :=
  countP_le_of_spends ticksLeft (·.appendsTick) ticksLeft_of_next hstopping hrun

/-- Only an attempt of the ticker commits a record of its. -/
theorem appendsTick_of_committed {entry : Entry} (hcommitted : server.committed? event = some entry)
    (hauthor : entry.author = .ticker) : event.appendsTick := by
  obtain ⟨⟨attempted, obstacles⟩, hattempt, hentry⟩ := Option.bind_eq_some_iff.mp hcommitted
  obtain rfl : attempted = entry := by
    dsimp only at hentry
    split at hentry
    · exact Option.some.inj hentry
    · cases hentry
  unfold attempt? at hattempt
  split at hattempt
  · obtain ⟨message, -, hpair⟩ := Option.map_eq_some_iff.mp hattempt
    obtain ⟨rfl, -⟩ := Prod.mk.inj hpair
    cases hauthor
  · rfl
  · cases hattempt

theorem countP_committed_le (server : Server) (events : List ServerEvent) :
    (server.committed events).countP (·.author = .ticker) ≤ events.countP (·.appendsTick) := by
  induction events generalizing server with
  | nil => exact Nat.le_refl 0
  | cons event events ih =>
      have hfirst : (server.committed? event).toList.countP (·.author = .ticker) ≤
          if event.appendsTick then 1 else 0 := by
        cases hcommitted : server.committed? event with
        | none => exact Nat.zero_le _
        | some entry =>
            rw [Option.toList_some, List.countP_singleton]
            split
            · next hauthor =>
              have hattempts := appendsTick_of_committed hcommitted (of_decide_eq_true hauthor)
              rw [if_pos hattempts]
            · exact Nat.zero_le _
      rw [committed, List.countP_append, List.countP_cons, Nat.add_comm]
      refine Nat.add_le_add ?_ hfirst
      cases server.next event with
      | none => exact Nat.zero_le _
      | some after => exact ih after

/-! ## The accept loop -/

/-- A sweep takes a worker from the registry, and only a worker that is started is added. -/
theorem length_registered_of_next (hnext : server.next event = some after) :
    after.registered.length + (if event.reaps then 1 else 0) ≤
      server.registered.length +
        (if event.acceptStep?.any AcceptBudget.workers.happens then 1 else 0) := by
  cases stepped_of_next hnext with
  | started number hphase => exact Nat.le_of_eq List.length_append
  | reaped number hphase hregistered hended =>
      exact Nat.le_of_eq (List.length_erase_add_one hregistered)
  | joinedWorker fault accepted report number registered ending hphase hregistered =>
      rw [hregistered]
      exact Nat.le_succ _
  | _ => exact Nat.le_add_right _ _

/-- How many workers sweeps may still find: those that are registered, and one that may still
be started. -/
def reapsLeft (server : Server) : Nat :=
  server.registered.length + AcceptBudget.workers.leftIn server.phase

/-- Sweeps find the workers that are there, and nobody comes in but the one that is being started.
-/
theorem reapsLeft_of_next (hnext : server.next event = some after) (hstopping : server.stopping) :
    after.reapsLeft + (if event.reaps then 1 else 0) ≤ server.reapsLeft := by
  have hregistered := length_registered_of_next hnext
  have hworkers := leftIn_of_next .workers hnext hstopping
  unfold reapsLeft
  omega

theorem countP_reaps_le (hstopping : server.stopping) (hrun : server.run events = some final) :
    events.countP (·.reaps) ≤ server.reapsLeft :=
  countP_le_of_spends reapsLeft (·.reaps) reapsLeft_of_next hstopping hrun

/-- The accept loop ends without an error, unless it is by a poll that has failed. -/
theorem accepted_of_next {accepted : Except ServerError Unit}
    (hnext : server.next event = some after) (hended : after.phase.accepted? = some accepted) :
    server.phase.accepted? = some accepted ∨ accepted = .ok () ∨
      ∃ cause, accepted = .error (.poll cause) ∧ event = .accept (.poll (.failed cause)) := by
  cases stepped_of_next hnext with
  | arrived | finished | triggered | reaped | served | appended | ticked | tickerAppended =>
      exact .inl hended
  | began fault phase ticker hbefore hphase =>
      rcases hphase with hstarting | rfl | ⟨error, rfl⟩
      · have hnone : phase.accepted? = none :=
          congrArg (·.2.1) (ServerPhase.findings_of_isStarting hstarting)
        cases hnone.symm.trans hended
      · cases hended
      · cases hended
  | stopped _ _ hphase | joinedTicker _ _ _ hphase | joinedWorker _ _ _ _ _ _ hphase
  | joinedAll _ _ _ hphase =>
      rw [hphase]
      exact .inl hended
  | removed | accepted | started => cases hended
  | turned step before following phase hphase hpermits hturn hconnection hstart hafter =>
      rcases hafter with ⟨rfl, -⟩ | ⟨result, rfl, rfl⟩
      · cases hended
      · obtain rfl := Option.some.inj hended
        rcases AcceptPhase.of_next_stopped hturn with ⟨hok, -⟩ | ⟨cause, herror, rfl⟩
        · exact .inr (.inl hok)
        · exact .inr (.inr ⟨cause, herror, rfl⟩)

/-- The accept loop ends without an error, unless a poll of the run has failed. -/
theorem accepted_of_run {accepted : Except ServerError Unit}
    (hrun : server.run events = some final) (hended : final.phase.accepted? = some accepted) :
    server.phase.accepted? = some accepted ∨ accepted = .ok () ∨
      ∃ cause, accepted = .error (.poll cause) ∧ .accept (.poll (.failed cause)) ∈ events := by
  refine foldlM_induction (fun events state => state.phase.accepted? = some accepted →
    server.phase.accepted? = some accepted ∨ accepted = .ok () ∨
      ∃ cause, accepted = .error (.poll cause) ∧ .accept (.poll (.failed cause)) ∈ events)
    .inl ?_ hrun hended
  intro events state event after _ hearlier hnext hended
  rcases accepted_of_next hnext hended with hsame | hok | ⟨cause, herror, rfl⟩
  · rcases hearlier hsame with hsame | hok | ⟨cause, herror, hmem⟩
    · exact .inl hsame
    · exact .inr (.inl hok)
    · exact .inr (.inr ⟨cause, herror, List.mem_append_left _ hmem⟩)
  · exact .inr (.inl hok)
  · exact .inr (.inr ⟨cause, herror, by simp⟩)

/-- Wherever the accept loop is, it can go on. -/
theorem exists_acceptStep {phase : AcceptPhase Nat} (hphase : server.phase = .accepting phase)
    (hgoing : ∀ accepted, phase ≠ .stopped accepted) :
    ∃ step after, server.next (.accept step) = some after := by
  obtain ⟨step, hpermits, hturns⟩ := AcceptPhase.exists_next server.permits
    ⟨server.stopping, decide_eq_true rfl⟩ ⟨.wouldBlock, rfl⟩ rfl rfl rfl hgoing
  have hpossible : (server.acceptStep step).isSome := by
    simpa only [acceptStep, hphase, hpermits, if_true, Option.isSome_map] using hturns
  exact ⟨step, Option.isSome_iff_exists.mp hpossible⟩

/-- From any moment at which the shutdown flag is set, at most one more connection is accepted
and at most one is given to a worker, at most one more record of the ticker is committed, and
the accept loop waits at most once more; and each of these only if the loop in question has
already looked at the flag before it was set and is just about to do so, which it is not when
it starts.  The accept loop then ends: it takes at most five more steps and finds no more
workers to join than there are, it can always go on, and it ends without an error unless a
poll fails.  All threads take their steps in any order, and shutdown may be requested any
number of times. -/
theorem winds_down_of_run {settings : Settings} {path : Path} {log : Log}
    {before more : List ServerEvent}
    (hbefore : (initial settings path log).run before = some server)
    (hstopping : server.stopping) (hmore : server.run more = some final) :
    (AcceptBudget.connections.spent more ≤ 1 ∧
        (server.phase ≠ .accepting .accepting → AcceptBudget.connections.spent more = 0)) ∧
      (AcceptBudget.workers.spent more ≤ 1 ∧
        (server.phase ≠ .accepting .accepting →
          (∀ client, server.phase ≠ .accepting (.starting client)) →
            AcceptBudget.workers.spent more = 0)) ∧
      (AcceptBudget.waits.spent more ≤ 1 ∧
        (server.phase ≠ .accepting .polling → AcceptBudget.waits.spent more = 0)) ∧
      (∃ added, final.entries = server.entries ++ added ∧
        added.countP (·.author = .ticker) ≤ 1 ∧
        (server.ticker ≠ some .appending → added.countP (·.author = .ticker) = 0)) ∧
      (AcceptBudget.steps.spent more ≤ 5 ∧
        more.countP (·.reaps) ≤ server.registered.length + 1 ∧
        ∀ phase, final.phase = .accepting phase →
          ∃ step after, final.next (.accept step) = some after) ∧
      (server.phase.accepted? = none → ∀ accepted, final.phase.accepted? = some accepted →
        accepted = .ok () ∨
          ∃ cause, accepted = .error (.poll cause) ∧ .accept (.poll (.failed cause)) ∈ more) := by
  have hreachable : (initial settings path log).run (before ++ more) = some final :=
    foldlM_append_eq_some_iff.mpr ⟨server, hbefore, hmore⟩
  have hticks := (countP_committed_le server more).trans (countP_appendsTick_le hstopping hmore)
  refine ⟨⟨?_, ?_⟩, ⟨?_, ?_⟩, ⟨?_, ?_⟩, ⟨server.committed more, entries_of_run hmore, ?_, ?_⟩,
    ⟨?_, ?_, ?_⟩, ?_⟩
  · exact spent_le .connections AcceptBudget.connections_left_le hstopping hmore
  · intro hphase
    refine spent_eq_zero .connections rfl (fun loop hloop => ?_) hstopping hmore
    cases loop <;> first | rfl | exact absurd hloop hphase
  · exact spent_le .workers AcceptBudget.workers_left_le hstopping hmore
  · intro hphase hstarting
    refine spent_eq_zero .workers rfl (fun loop hloop => ?_) hstopping hmore
    cases loop with
    | accepting => exact absurd hloop hphase
    | starting client => exact absurd hloop (hstarting client)
    | _ => rfl
  · exact spent_le .waits AcceptBudget.waits_left_le hstopping hmore
  · intro hphase
    refine spent_eq_zero .waits rfl (fun loop hloop => ?_) hstopping hmore
    cases loop <;> first | rfl | exact absurd hloop hphase
  · refine hticks.trans ?_
    unfold ticksLeft
    split
    · exact Nat.le_refl _
    · exact Nat.zero_le _
  · intro hticker
    rw [ticksLeft, if_neg hticker] at hticks
    exact Nat.le_zero.mp hticks
  · exact spent_le .steps AcceptBudget.steps_left_le hstopping hmore
  · exact (countP_reaps_le hstopping hmore).trans
      (Nat.add_le_add_left (AcceptBudget.workers.leftIn_le AcceptBudget.workers_left_le _) _)
  · intro phase hphase
    refine exists_acceptStep hphase ?_
    rintro accepted rfl
    exact going_of_run hreachable accepted hphase
  · intro hrunning accepted hended
    rcases accepted_of_run hmore hended with hsame | hresult
    · cases hrunning.symm.trans hsame
    · exact hresult

section Example

/-- Shutdown is requested when the loop is about to accept and the ticker to append. -/
private def overtakenEvents : List ServerEvent :=
  startEvents [] ++ [.tick .schedule, .tick .look, .accept (.look false), .trigger]

/-- A client is accepted and given to a worker, and a record is appended, before the loop
and the ticker see the flag. -/
private def windingEvents : List ServerEvent :=
  [.accept (.accept (.connection 0)), .accept (.start .started), .trigger,
    .tick (.append .none ⟨0, 0⟩ 0), .accept (.look true), .accept .sweep, .tick .schedule,
    .accept (.look true), .tick .look]

/-- The request comes too late for one more client and one more record. -/
theorem winds_down_of_overtakenEvents :
    ∃ server final,
      (initial tickingSettings [slash, 100] .empty).run overtakenEvents = some server ∧
      server.stopping ∧ server.run windingEvents = some final ∧
      AcceptBudget.connections.spent windingEvents = 1 ∧
      final.entries = [⟨.ticker, Timestamp.recordBytes ⟨0, 0⟩ 0⟩] ∧
      ∃ accepted, final.phase.accepted? = some accepted ∧ accepted = .ok () := by
  have hfields : ((initial tickingSettings [slash, 100] .empty).run
      (overtakenEvents ++ windingEvents)).map (fun final =>
        (final.entries, final.phase.accepted?.isSome)) =
      some ([⟨.ticker, Timestamp.recordBytes ⟨0, 0⟩ 0⟩], true) := by
    rfl
  have hflag : ((initial tickingSettings [slash, 100] .empty).run overtakenEvents).map
      (fun server => (server.stopping, server.phase.accepted?.isNone)) = some (true, true) := by
    rfl
  obtain ⟨final, hrun, hfinal⟩ := Option.map_eq_some_iff.mp hfields
  obtain ⟨hentries, hended⟩ := Prod.mk.inj hfinal
  obtain ⟨server, hbefore, hmore⟩ := foldlM_append_eq_some_iff.mp hrun
  rw [run, hbefore] at hflag
  obtain ⟨hstopping, hrunning⟩ := Prod.mk.inj (Option.some.inj hflag)
  obtain ⟨⟨hconnections, -⟩, -, -, -, -, hresult⟩ := winds_down_of_run hbefore hstopping hmore
  obtain ⟨accepted, haccepted⟩ := Option.isSome_iff_exists.mp hended
  have hone : AcceptBudget.connections.spent windingEvents = 1 :=
    Nat.le_antisymm hconnections (List.countP_pos_iff.mpr ⟨_, List.mem_cons_self .., rfl⟩)
  refine ⟨server, final, hbefore, hstopping, hmore, hone, hentries, accepted, haccepted, ?_⟩
  rcases hresult (Option.isNone_iff_eq_none.mp hrunning) accepted haccepted with
    hok | ⟨cause, -, hmem⟩
  · exact hok
  · simp [windingEvents] at hmem

end Example

end Server

end LineLog
