import LineLog.Drain.Course
import LineLog.Proofs.Registry.Calls

/-!
# The steps of a drain

A drain of so many workers takes four steps more than that, and which one comes next depends
on nothing but how many it has taken.  It keeps every worker in view, and each is joined once.
When all tasks have ended, nothing keeps it from returning.
-/

namespace LineLog

namespace JoinSummary

/-- A summary counts the tasks that panicked. -/
theorem panicked_ofEndings (endings : List Ending) :
    (ofEndings endings).panicked = endings.count .panicked := by
  induction endings using List.reverseRecOn with
  | nil => rfl
  | append_singleton endings ending ih =>
      rw [ofEndings_snoc, List.count_append, ← ih]
      cases ending <;> rfl

end JoinSummary

theorem Shutdown.requested_trigger (shutdown : Shutdown) :
    shutdown.trigger.1.requested = true := by
  unfold trigger
  split
  · assumption
  · rfl

inductive DrainStep where
  | trigger
  | joinTicker
  | joinWorkers
  | remove
  deriving DecidableEq, Repr

/-- The step that a drain of `count` workers takes after `taken` ones, if it does not return. -/
def DrainStep.scheduled (count taken : Nat) : Option DrainStep :=
  if taken = 0 then some .trigger
  else if taken = 1 then some .joinTicker
  else if taken < count + 3 then some .joinWorkers
  else if taken = count + 3 then some .remove
  else none

/-- A drain of `count` workers takes four steps more than that. -/
theorem DrainStep.scheduled_eq_none_iff {count taken : Nat} :
    scheduled count taken = none ↔ count + 4 ≤ taken := by
  unfold scheduled
  split_ifs <;> simp <;> omega

def DrainPhase.due : DrainPhase → Option DrainStep
  | .triggering => some .trigger
  | .joiningTicker => some .joinTicker
  | .joiningWorkers _ => some .joinWorkers
  | .removing _ => some .remove
  | .returned _ => none

namespace DrainEvent

def tickerEnding? : DrainEvent → Option Ending
  | .tickerEnds ending => some ending
  | _ => none

def workerEnding? (key : Nat) : DrainEvent → Option Ending
  | .workerEnds other ending => if other = key then some ending else none
  | _ => none

def isStep : DrainEvent → Bool
  | .step => true
  | _ => false

end DrainEvent

namespace Draining

variable {draining after : Draining} {events : List DrainEvent} {event : DrainEvent}

/-! ## How the tasks end -/

/-- How a ticker ends over `events`, if it does: what ended has ended for good. -/
def tickerEnding (events : List DrainEvent) (ending : Option Ending) : Option Ending :=
  ending.or (events.findSome? (·.tickerEnding?))

def workerEnding (events : List DrainEvent) (entry : Nat × Worker) : Option Ending :=
  entry.2.ending.or (events.findSome? (·.workerEnding? entry.1))

/-- A worker with what becomes of its task over `events`. -/
def settle (events : List DrainEvent) (entry : Nat × Worker) : Nat × Worker :=
  (entry.1, { entry.2 with ending := workerEnding events entry })

theorem tickerEnding_append (events more : List DrainEvent) (ending : Option Ending) :
    tickerEnding (events ++ more) ending = tickerEnding more (tickerEnding events ending) := by
  rw [tickerEnding, List.findSome?_append, ← Option.or_assoc]
  rfl

theorem workerEnding_append (events more : List DrainEvent) (entry : Nat × Worker) :
    workerEnding (events ++ more) entry = workerEnding more (settle events entry) := by
  rw [workerEnding, List.findSome?_append, ← Option.or_assoc]
  rfl

/-- A task that has ended does not end again. -/
theorem workerEnding_append_of_isSome {entry : Nat × Worker}
    (hended : (workerEnding events entry).isSome) (more : List DrainEvent) :
    workerEnding (events ++ more) entry = workerEnding events entry := by
  obtain ⟨ending, hending⟩ := Option.isSome_iff_exists.mp hended
  rw [workerEnding_append, workerEnding, settle, hending]
  rfl

theorem settle_snoc_workerEnds (key : Nat) (ending : Ending) (entry : Nat × Worker) :
    settle (events ++ [.workerEnds key ending]) entry =
      SweepPhase.finishEntry key ending (settle events entry) := by
  rw [settle, workerEnding_append, SweepPhase.finishEntry, workerEnding]
  by_cases hkey : entry.1 = key
  · subst hkey
    cases hended : workerEnding events entry <;>
      simp [settle, hended, DrainEvent.workerEnding?, Worker.finish]
  · simp [settle, hkey, Ne.symm hkey, DrainEvent.workerEnding?]

theorem settle_snoc_other (hevent : ∀ key, event.workerEnding? key = none)
    (entry : Nat × Worker) : settle (events ++ [event]) entry = settle events entry := by
  rw [settle, workerEnding_append, workerEnding]
  simp [settle, hevent]

theorem tickerEnding_snoc_other (hevent : event.tickerEnding? = none) (ending : Option Ending) :
    tickerEnding (events ++ [event]) ending = tickerEnding events ending := by
  rw [tickerEnding_append, tickerEnding]
  simp [hevent]

/-! ## What a step does -/

inductive Stepped (draining : Draining) : DrainEvent → Draining → Prop where
  | triggered (hphase : draining.phase = .triggering) :
      Stepped draining .step
        { draining with shutdown := draining.shutdown.trigger.1, phase := .joiningTicker }
  | joinedTicker (tickerPanicked : Bool) (hphase : draining.phase = .joiningTicker)
      (hticker : draining.tickerPanicked? = some tickerPanicked)
      (hidle : draining.workers.phase = .idle) :
      Stepped draining .step
        { draining with
          workers := draining.workers.joining
          phase := .joiningWorkers tickerPanicked }
  | joined (tickerPanicked : Bool) (workers : Sweep)
      (hphase : draining.phase = .joiningWorkers tickerPanicked)
      (hworkers : draining.workers.next .step = some workers) :
      Stepped draining .step
        { draining with
          workers, phase := .afterJoining tickerPanicked draining.workers.phase }
  | removed (report : DrainReport) (hphase : draining.phase = .removing report) :
      Stepped draining .step (draining.remove report)
  | requested :
      Stepped draining .trigger { draining with shutdown := draining.shutdown.trigger.1 }
  | tickerEnded (ending : Ending) :
      Stepped draining (.tickerEnds ending)
        { draining with ticker := draining.ticker.map fun former => some (former.getD ending) }
  | workerEnded (key : Nat) (ending : Ending) :
      Stepped draining (.workerEnds key ending)
        { draining with workers := draining.workers.finish key ending }
  | called (call : StoreCall) :
      Stepped draining (.call call)
        { draining with
          host := (draining.store.call call draining.host).1.1
          store := (draining.store.call call draining.host).1.2 }
  | changed (change : Host → Host) :
      Stepped draining (.change change) { draining with host := change draining.host }

theorem stepped_of_step (hstep : draining.step = some after) : Stepped draining .step after := by
  unfold step at hstep
  split at hstep
  · next hphase =>
    obtain rfl := Option.some.inj hstep
    exact .triggered hphase
  · next hphase =>
    obtain ⟨tickerPanicked, hticker, hrest⟩ := Option.bind_eq_some_iff.mp hstep
    obtain ⟨workers, hworkers, hafter⟩ := Option.bind_eq_some_iff.mp hrest
    obtain ⟨hidle, hjoining⟩ := Option.ite_none_right_eq_some.mp hworkers
    obtain rfl := Option.some.inj hjoining
    obtain rfl := Option.some.inj hafter
    exact .joinedTicker tickerPanicked hphase hticker hidle
  · next tickerPanicked hphase =>
    obtain ⟨workers, hworkers, hafter⟩ := Option.bind_eq_some_iff.mp hstep
    obtain rfl := Option.some.inj hafter
    exact .joined tickerPanicked workers hphase hworkers
  · next report hphase =>
    obtain rfl := Option.some.inj hstep
    exact .removed report hphase
  · cases hstep

theorem stepped_of_next (hnext : draining.next event = some after) :
    Stepped draining event after := by
  cases event with
  | step => exact stepped_of_step hnext
  | trigger =>
      obtain rfl := Option.some.inj hnext
      exact .requested
  | tickerEnds ending =>
      obtain rfl := Option.some.inj hnext
      exact .tickerEnded ending
  | workerEnds key ending =>
      obtain rfl := Option.some.inj hnext
      exact .workerEnded key ending
  | call call =>
      obtain rfl := Option.some.inj hnext
      exact .called call
  | change change =>
      obtain rfl := Option.some.inj hnext
      exact .changed change

/-! ## How far the drain has come -/

def panickedWorkers (draining : Draining) : Nat :=
  (draining.workers.joined.map (·.ending)).count .panicked

inductive Stage (draining : Draining) : DrainPhase → Prop where
  | triggering (hidle : draining.workers.phase = .idle) (hjoined : draining.workers.joined = []) :
      Stage draining .triggering
  | joiningTicker (hrequested : draining.shutdown.requested = true)
      (hidle : draining.workers.phase = .idle) (hjoined : draining.workers.joined = []) :
      Stage draining .joiningTicker
  | joiningWorkers (tickerPanicked : Bool) (rest : List (Nat × Worker))
      (hrequested : draining.shutdown.requested = true)
      (hticker : draining.tickerPanicked? = some tickerPanicked)
      (hregistry : draining.workers.registry = .empty)
      (hrest : draining.workers.phase =
        .joining rest (.ofEndings (draining.workers.joined.map (·.ending)))) :
      Stage draining (.joiningWorkers tickerPanicked)
  | removing (tickerPanicked : Bool) (hrequested : draining.shutdown.requested = true)
      (hticker : draining.tickerPanicked? = some tickerPanicked)
      (hregistry : draining.workers.registry = .empty)
      (hidle : draining.workers.phase = .idle) :
      Stage draining (.removing ⟨draining.panickedWorkers, tickerPanicked, none⟩)
  | returned (result : Except DrainReport Unit) (hrequested : draining.shutdown.requested = true)
      (hregistry : draining.workers.registry = .empty)
      (hidle : draining.workers.phase = .idle) : Stage draining (.returned result)

/-- What goes on meanwhile leaves the drain where it is. -/
structure Meanwhile (draining after : Draining) : Prop where
  phase : after.phase = draining.phase
  requested : draining.shutdown.requested = true → after.shutdown.requested = true
  ticker : ∀ tickerPanicked, draining.tickerPanicked? = some tickerPanicked →
    after.tickerPanicked? = some tickerPanicked
  joined : after.workers.joined = draining.workers.joined
  registry : draining.workers.registry = .empty → after.workers.registry = .empty
  idle : draining.workers.phase = .idle → after.workers.phase = .idle
  joining : ∀ rest summary, draining.workers.phase = .joining rest summary →
    ∃ others, after.workers.phase = .joining others summary
  held : after.workers.held.length = draining.workers.held.length

/-- Nothing happens to the tasks. -/
theorem meanwhile_of_eq (hphase : after.phase = draining.phase)
    (hrequested : draining.shutdown.requested = true → after.shutdown.requested = true)
    (hticker : after.ticker = draining.ticker) (hworkers : after.workers = draining.workers) :
    Meanwhile draining after where
  phase := hphase
  requested := hrequested
  ticker tickerPanicked hpanicked := by rwa [tickerPanicked?, hticker]
  joined := by rw [hworkers]
  registry := by rw [hworkers]; exact id
  idle := by rw [hworkers]; exact id
  joining rest summary hrest := ⟨rest, by rwa [hworkers]⟩
  held := by rw [hworkers]

/-- A ticker that has ended does not end again. -/
theorem meanwhile_tickerEnds (draining : Draining) (ending : Ending) :
    Meanwhile draining
      { draining with ticker := draining.ticker.map fun former => some (former.getD ending) } where
  phase := rfl
  requested := id
  ticker tickerPanicked hticker := by
    unfold tickerPanicked? at hticker ⊢
    match hformer : draining.ticker with
    | none => rwa [hformer] at hticker
    | some none =>
        rw [hformer] at hticker
        cases hticker
    | some (some former) => rwa [hformer] at hticker
  joined := rfl
  registry := id
  idle := id
  joining rest _ hrest := ⟨rest, hrest⟩
  held := rfl

theorem meanwhile_workerEnds (draining : Draining) (key : Nat) (ending : Ending) :
    Meanwhile draining { draining with workers := draining.workers.finish key ending } where
  phase := rfl
  requested := id
  ticker _ := id
  joined := rfl
  registry hregistry := by
    rw [Sweep.finish, hregistry]
    rfl
  idle hidle := by
    rw [Sweep.finish, hidle]
    rfl
  joining rest summary hrest := by
    rw [Sweep.finish, hrest]
    exact ⟨_, rfl⟩
  held := by rw [Sweep.held_finish, List.length_map]

theorem meanwhile_of_next (hevent : event.isStep = false)
    (hnext : draining.next event = some after) : Meanwhile draining after := by
  cases stepped_of_next hnext with
  | triggered | joinedTicker | joined | removed => cases hevent
  | requested =>
      exact meanwhile_of_eq rfl (fun _ => draining.shutdown.requested_trigger) rfl rfl
  | tickerEnded ending => exact meanwhile_tickerEnds draining ending
  | workerEnded key ending => exact meanwhile_workerEnds draining key ending
  | called | changed => exact meanwhile_of_eq rfl id rfl rfl

theorem Stage.meanwhile {phase : DrainPhase} (hstage : Stage draining phase)
    (hmeanwhile : Meanwhile draining after) : Stage after phase := by
  cases hstage with
  | triggering hidle hjoined =>
      exact .triggering (hmeanwhile.idle hidle) (hmeanwhile.joined.trans hjoined)
  | joiningTicker hrequested hidle hjoined =>
      exact .joiningTicker (hmeanwhile.requested hrequested) (hmeanwhile.idle hidle)
        (hmeanwhile.joined.trans hjoined)
  | joiningWorkers tickerPanicked rest hrequested hticker hregistry hrest =>
      obtain ⟨others, hothers⟩ := hmeanwhile.joining _ _ hrest
      rw [← hmeanwhile.joined] at hothers
      exact .joiningWorkers tickerPanicked others (hmeanwhile.requested hrequested)
        (hmeanwhile.ticker _ hticker) (hmeanwhile.registry hregistry) hothers
  | removing tickerPanicked hrequested hticker hregistry hidle =>
      have hcount : draining.panickedWorkers = after.panickedWorkers := by
        rw [panickedWorkers, ← hmeanwhile.joined]
        rfl
      rw [hcount]
      exact .removing tickerPanicked (hmeanwhile.requested hrequested)
        (hmeanwhile.ticker _ hticker) (hmeanwhile.registry hregistry) (hmeanwhile.idle hidle)
  | returned result hrequested hregistry hidle =>
      exact .returned result (hmeanwhile.requested hrequested) (hmeanwhile.registry hregistry)
        (hmeanwhile.idle hidle)

/-- The ways in which the joining of the workers goes on: the next one is joined, or there is
none left. -/
inductive Joins (sweep : Sweep) : List (Nat × Worker) → JoinSummary → Sweep → Prop where
  | worker (key : Nat) (worker : Worker) (rest : List (Nat × Worker)) (summary : JoinSummary)
      (ending : Ending) (hending : worker.ending = some ending) :
      Joins sweep ((key, worker) :: rest) summary
        { sweep.join key worker ending with phase := .joining rest (summary.record ending) }
  | all (summary : JoinSummary) : Joins sweep [] summary (sweep.finishCall summary)

theorem joins_of_next {sweep joined : Sweep} {rest : List (Nat × Worker)} {summary : JoinSummary}
    (hphase : sweep.phase = .joining rest summary) (hnext : sweep.next .step = some joined) :
    Joins sweep rest summary joined := by
  cases Sweep.stepped_of_next hnext with
  | awaited key worker others _ ending hother hending =>
      cases hphase.symm.trans hother
      exact .worker key worker others _ ending hending
  | returned _ hother =>
      rcases hother with hother | hother <;> cases hphase.symm.trans hother
      exact .all _
  | looked _ _ _ hother | noted _ hother | reaped _ _ _ _ _ hother =>
      cases hphase.symm.trans hother

theorem stage_step (hstage : Stage draining draining.phase)
    (hstep : Stepped draining .step after) : Stage after after.phase := by
  cases hstep with
  | triggered hphase =>
      rw [hphase] at hstage
      cases hstage with
      | triggering hidle hjoined =>
          exact .joiningTicker draining.shutdown.requested_trigger hidle hjoined
  | joinedTicker tickerPanicked hphase hticker hidle =>
      rw [hphase] at hstage
      cases hstage with
      | joiningTicker hrequested hidle hjoined =>
          refine .joiningWorkers tickerPanicked draining.workers.registry.entries hrequested hticker
            rfl ?_
          rw [Sweep.joining, hjoined]
          rfl
  | joined tickerPanicked workers hphase hworkers =>
      rw [hphase] at hstage
      cases hstage with
      | joiningWorkers _ rest hrequested hticker hregistry hrest =>
          rw [hrest]
          generalize hsummary : JoinSummary.ofEndings _ = summary at hrest
          cases joins_of_next hrest hworkers with
          | worker key worker rest _ ending hending =>
              refine .joiningWorkers tickerPanicked rest hrequested hticker hregistry ?_
              rw [Sweep.join, List.map_append, List.map_singleton, JoinSummary.ofEndings_snoc,
                hsummary]
          | all =>
              have hcount : summary.panicked = draining.panickedWorkers := by
                rw [← hsummary, JoinSummary.panicked_ofEndings]
                rfl
              rw [DrainPhase.afterJoining, hcount]
              exact .removing tickerPanicked hrequested hticker hregistry rfl
  | removed report hphase =>
      rw [hphase] at hstage
      cases hstage with
      | removing tickerPanicked hrequested hticker hregistry hidle =>
          exact .returned _ hrequested hregistry hidle

/-! ## What becomes of the tasks -/

def stepsTaken (draining : Draining) : Nat :=
  match draining.phase with
  | .triggering => 0
  | .joiningTicker => 1
  | .joiningWorkers _ => draining.workers.joined.length + 2
  | .removing _ => draining.workers.joined.length + 3
  | .returned _ => draining.workers.joined.length + 4

/-- What the drain knows about the tasks after `events`. -/
structure Tracked (ticker : Option (Option Ending)) (registry : Registry)
    (events : List DrainEvent) (draining : Draining) : Prop where
  ticker_eq : draining.ticker = ticker.map (tickerEnding events)
  known_eq : draining.workers.known = registry.entries.map (settle events)
  ended : ∀ record ∈ draining.workers.joined, record.worker.ending = some record.ending
  stage : Stage draining draining.phase
  taken : events.countP (·.isStep) = draining.stepsTaken

/-- The end of a task changes nothing for the workers that were joined. -/
theorem known_finish {sweep : Sweep}
    (hended : ∀ record ∈ sweep.joined, record.worker.ending = some record.ending) (key : Nat)
    (ending : Ending) :
    (sweep.finish key ending).known = sweep.known.map (SweepPhase.finishEntry key ending) := by
  rw [Sweep.known, Sweep.known, Sweep.held_finish, List.map_append, List.map_map]
  refine congrArg (· ++ _) (List.map_congr_left fun record hrecord => ?_)
  have hdone : record.worker.isDone = true := Option.isSome_of_eq_some (hended record hrecord)
  rw [Function.comp_apply, SweepPhase.finishEntry]
  split
  · next hkey =>
    rw [← hkey]
    exact (congrArg (record.key, ·) (Worker.finish_of_isDone ending hdone)).symm
  · rfl

theorem known_joins {sweep joined : Sweep} {rest : List (Nat × Worker)} {summary : JoinSummary}
    (hregistry : sweep.registry = .empty) (hphase : sweep.phase = .joining rest summary)
    (hjoins : Joins sweep rest summary joined) : joined.known = sweep.known := by
  rw [Sweep.known, Sweep.known, Sweep.held, Sweep.held]
  cases hjoins with
  | worker key worker rest _ ending hending =>
      rw [hphase, Sweep.join, hregistry, List.map_append, List.append_assoc]
      rfl
  | all =>
      rw [hphase, Sweep.finishCall, hregistry]
      rfl

namespace Tracked

variable {ticker : Option (Option Ending)} {registry : Registry}

theorem initial (shutdown : Shutdown) (ticker : Option (Option Ending)) (registry : Registry)
    (store : Store) (host : Host) :
    Tracked ticker registry [] (.initial shutdown ticker registry store host) where
  ticker_eq := by
    have hending : tickerEnding [] = id := by
      funext ending
      exact Option.or_none
    rw [hending, Option.map_id_fun]
    rfl
  known_eq := by
    have hsettle : settle [] = id := by
      funext entry
      rw [settle, workerEnding]
      exact congrArg (fun ending => (entry.1, { entry.2 with ending })) Option.or_none
    rw [hsettle, List.map_id]
    exact List.append_nil _
  ended := nofun
  stage := .triggering rfl rfl
  taken := rfl

/-- What goes on meanwhile. -/
theorem meanwhile (htracked : Tracked ticker registry events draining)
    (hevent : event.isStep = false) (hnext : draining.next event = some after) :
    Tracked ticker registry (events ++ [event]) after where
  ticker_eq := by
    have hother (hnone : event.tickerEnding? = none) :
        ticker.map (tickerEnding (events ++ [event])) = draining.ticker := by
      rw [htracked.ticker_eq]
      exact congrArg (ticker.map ·) (funext (tickerEnding_snoc_other hnone))
    cases stepped_of_next hnext with
    | tickerEnded ending =>
        dsimp only
        rw [htracked.ticker_eq, Option.map_map]
        refine congrArg (ticker.map ·) (funext fun former => ?_)
        rw [tickerEnding_append, Function.comp_apply]
        cases tickerEnding events former <;> rfl
    | triggered | joinedTicker | joined | removed => cases hevent
    | _ => exact (hother rfl).symm
  known_eq := by
    have hother (hnone : ∀ key, event.workerEnding? key = none) :
        registry.entries.map (settle (events ++ [event])) = draining.workers.known := by
      rw [htracked.known_eq]
      exact List.map_congr_left fun entry _ => settle_snoc_other hnone entry
    cases stepped_of_next hnext with
    | workerEnded key ending =>
        dsimp only
        rw [known_finish htracked.ended, htracked.known_eq, List.map_map]
        exact List.map_congr_left fun entry _ => (settle_snoc_workerEnds key ending entry).symm
    | triggered | joinedTicker | joined | removed => cases hevent
    | _ => exact (hother fun _ => rfl).symm
  ended := by
    rw [(meanwhile_of_next hevent hnext).joined]
    exact htracked.ended
  stage := by
    have hmeanwhile := meanwhile_of_next hevent hnext
    rw [hmeanwhile.phase]
    exact htracked.stage.meanwhile hmeanwhile
  taken := by
    have hmeanwhile := meanwhile_of_next hevent hnext
    rw [stepsTaken, hmeanwhile.phase, hmeanwhile.joined, List.countP_append, htracked.taken]
    simp [hevent, stepsTaken]

/-- The drain takes a step. -/
theorem step (htracked : Tracked ticker registry events draining)
    (hnext : draining.next .step = some after) :
    Tracked ticker registry (events ++ [.step]) after := by
  have hstepped := stepped_of_step hnext
  have hstage := htracked.stage
  have hticker : ticker.map (tickerEnding (events ++ [.step])) = draining.ticker := by
    rw [htracked.ticker_eq]
    exact congrArg (ticker.map ·) (funext (tickerEnding_snoc_other rfl))
  have hknown : registry.entries.map (settle (events ++ [.step])) = draining.workers.known := by
    rw [htracked.known_eq]
    exact List.map_congr_left fun entry _ => settle_snoc_other (fun _ => rfl) entry
  have htaken : (events ++ [DrainEvent.step]).countP (·.isStep) = draining.stepsTaken + 1 := by
    rw [List.countP_append, htracked.taken]
    rfl
  have hafter := stage_step hstage hstepped
  cases hstepped with
  | triggered hphase =>
      refine ⟨hticker.symm, hknown.symm, htracked.ended, hafter, ?_⟩
      rw [htaken, stepsTaken, hphase, stepsTaken]
  | joinedTicker tickerPanicked hphase _ hidle =>
      rw [hphase] at hstage
      cases hstage with
      | joiningTicker _ _ hjoined =>
          refine ⟨hticker.symm, ?_, htracked.ended, hafter, ?_⟩
          · rw [hknown, Sweep.known, Sweep.known, Sweep.held_of_idle hidle]
            rfl
          · rw [htaken, stepsTaken, hphase, stepsTaken]
            dsimp only
            rw [Sweep.joining, hjoined]
            rfl
  | joined tickerPanicked workers hphase hworkers =>
      rw [hphase] at hstage
      cases hstage with
      | joiningWorkers _ rest _ _ hregistry hrest =>
          have hjoins := joins_of_next hrest hworkers
          have hsame := known_joins hregistry hrest hjoins
          rw [hrest] at hafter ⊢
          rw [stepsTaken, hphase] at htaken
          cases hjoins with
          | worker key worker rest _ ending hending =>
              refine ⟨hticker.symm, hsame.trans hknown.symm, ?_, hafter, ?_⟩
              · intro record hrecord
                rcases List.mem_append.mp hrecord with hrecord | hrecord
                · exact htracked.ended record hrecord
                · obtain rfl := List.mem_singleton.mp hrecord
                  exact hending
              · rw [htaken, stepsTaken]
                simp [DrainPhase.afterJoining, Sweep.join]
          | all =>
              exact ⟨hticker.symm, hsame.trans hknown.symm, htracked.ended, hafter, htaken⟩
  | removed report hphase =>
      refine ⟨hticker.symm, hknown.symm, htracked.ended, hafter, ?_⟩
      rw [htaken, stepsTaken, hphase]
      rfl

theorem next (htracked : Tracked ticker registry events draining)
    (hnext : draining.next event = some after) :
    Tracked ticker registry (events ++ [event]) after := by
  cases hevent : event.isStep with
  | false => exact htracked.meanwhile hevent hnext
  | true =>
      cases event with
      | step => exact htracked.step hnext
      | _ => cases hevent

theorem of_run {shutdown : Shutdown} {store : Store} {host : Host}
    (hrun : (Draining.initial shutdown ticker registry store host).run events = some draining) :
    Tracked ticker registry events draining := by
  refine foldlM_induction (Tracked ticker registry) ?_ ?_ hrun
  · exact .initial shutdown ticker registry store host
  · exact fun _ _ _ _ _ htracked hnext => htracked.next hnext

theorem held_eq_nil (hregistry : draining.workers.registry = .empty)
    (hidle : draining.workers.phase = .idle) : draining.workers.held = [] := by
  rw [Sweep.held_of_idle hidle, hregistry]
  rfl

/-- Every worker that was joined is one that was registered, and the other way round. -/
theorem entries_eq (htracked : Tracked ticker registry events draining)
    (hregistry : draining.workers.registry = .empty) (hidle : draining.workers.phase = .idle) :
    draining.workers.joined.map Joined.entry = registry.entries.map (settle events) := by
  rw [← htracked.known_eq, Sweep.known, held_eq_nil hregistry hidle, List.append_nil]

/-- How the workers ended that were joined. -/
theorem endings_eq (htracked : Tracked ticker registry events draining)
    (hregistry : draining.workers.registry = .empty) (hidle : draining.workers.phase = .idle) :
    draining.workers.joined.map (some ·.ending) = registry.entries.map (workerEnding events) := by
  have hentries := congrArg (List.map (·.2.ending)) (htracked.entries_eq hregistry hidle)
  rw [List.map_map, List.map_map] at hentries
  rw [← List.map_congr_left htracked.ended]
  exact hentries

end Tracked

/-! ## The steps of a drain -/

variable {ticker : Option (Option Ending)} {registry : Registry}

theorem Tracked.length_joined (htracked : Tracked ticker registry events draining) :
    draining.workers.joined.length + draining.workers.held.length = registry.length := by
  have hlength := congrArg List.length htracked.known_eq
  rwa [Sweep.known, List.length_append, List.length_map, List.length_map] at hlength

/-- What a drain does next depends on nothing but the number of its steps. -/
theorem Tracked.due_eq (htracked : Tracked ticker registry events draining) :
    draining.phase.due = DrainStep.scheduled registry.length (events.countP (·.isStep)) := by
  have hlength := htracked.length_joined
  have hstage := htracked.stage
  rw [htracked.taken, stepsTaken, DrainStep.scheduled]
  generalize draining.phase = phase at hstage ⊢
  cases hstage with
  | triggering | joiningTicker => rfl
  | joiningWorkers tickerPanicked rest =>
      have hmore : draining.workers.joined.length + 2 < registry.length + 3 := by omega
      simp [DrainPhase.due, hmore]
  | removing tickerPanicked _ _ hregistry hidle =>
      rw [Tracked.held_eq_nil hregistry hidle, List.length_nil, Nat.add_zero] at hlength
      simp [DrainPhase.due, hlength]
  | returned result _ hregistry hidle =>
      rw [Tracked.held_eq_nil hregistry hidle, List.length_nil, Nat.add_zero] at hlength
      simp [DrainPhase.due, hlength]

theorem Tracked.taken_le (htracked : Tracked ticker registry events draining) :
    events.countP (·.isStep) ≤ registry.length + 4 := by
  have hlength := htracked.length_joined
  rw [htracked.taken, stepsTaken]
  split <;> omega

/-- Every task has ended that the drain has still to wait for. -/
structure Ended (draining : Draining) : Prop where
  ticker : draining.tickerPanicked?.isSome
  workers : ∀ entry ∈ draining.workers.held, entry.2.isDone = true

/-- Once the tasks have ended, nothing keeps a drain from its next step. -/
theorem exists_step (hstage : Stage draining draining.phase) (hended : Ended draining)
    (hdue : draining.phase.due ≠ none) : ∃ after, draining.next .step = some after := by
  change ∃ after, draining.step = some after
  unfold step
  generalize draining.phase = phase at hstage hdue
  cases hstage with
  | triggering => exact ⟨_, rfl⟩
  | joiningTicker hrequested hidle =>
      obtain ⟨tickerPanicked, hticker⟩ := Option.isSome_iff_exists.mp hended.ticker
      have hjoining : draining.workers.next .joinAll = some draining.workers.joining := if_pos hidle
      simp only [hticker, hjoining]
      exact ⟨_, rfl⟩
  | joiningWorkers tickerPanicked rest hrequested hticker hregistry hrest =>
      have hnext : ∃ workers, draining.workers.next .step = some workers := by
        cases rest with
        | nil =>
            simp only [Sweep.next, Sweep.step, hrest]
            exact ⟨_, rfl⟩
        | cons entry rest =>
            have hheld : entry ∈ draining.workers.held := by
              rw [Sweep.held, hrest]
              exact List.mem_append_right _ List.mem_cons_self
            obtain ⟨ending, hending⟩ := Option.isSome_iff_exists.mp (hended.workers entry hheld)
            simp only [Sweep.next, Sweep.step, hrest, hending]
            exact ⟨_, rfl⟩
      obtain ⟨workers, hworkers⟩ := hnext
      simp only [hworkers]
      exact ⟨_, rfl⟩
  | removing => exact ⟨_, rfl⟩
  | returned => exact absurd rfl hdue

theorem tickerEnding_append_of_isSome {ending : Option Ending}
    (hended : (tickerEnding events ending).isSome) (more : List DrainEvent) :
    tickerEnding (events ++ more) ending = tickerEnding events ending := by
  obtain ⟨former, hformer⟩ := Option.isSome_iff_exists.mp hended
  rw [tickerEnding_append, tickerEnding, hformer]
  rfl

structure AllEnd (ticker : Option (Option Ending)) (registry : Registry)
    (events : List DrainEvent) : Prop where
  ticker : ∀ ending ∈ ticker, (tickerEnding events ending).isSome
  workers : ∀ entry ∈ registry.entries, (workerEnding events entry).isSome

theorem AllEnd.append (hend : AllEnd ticker registry events) (more : List DrainEvent) :
    AllEnd ticker registry (events ++ more) where
  ticker ending hmem := by
    have hended := hend.ticker ending hmem
    rwa [tickerEnding_append_of_isSome hended]
  workers entry hmem := by
    have hended := hend.workers entry hmem
    rwa [workerEnding_append_of_isSome hended]

theorem Tracked.allEnded (htracked : Tracked ticker registry events draining)
    (hend : AllEnd ticker registry events) : Ended draining where
  ticker := by
    rw [tickerPanicked?, htracked.ticker_eq]
    cases hticker : ticker with
    | none => rfl
    | some ending =>
        have hended := hend.ticker ending hticker
        rwa [Option.map_some, Option.isSome_map]
  workers entry hentry := by
    have hknown : entry ∈ draining.workers.known := List.mem_append_right _ hentry
    rw [htracked.known_eq] at hknown
    obtain ⟨origin, horigin, rfl⟩ := List.mem_map.mp hknown
    exact hend.workers origin horigin

/-- Once the tasks have ended, the drain returns after the steps that it has left. -/
theorem Tracked.exists_return (htracked : Tracked ticker registry events draining)
    (hend : AllEnd ticker registry events) (left : Nat)
    (hleft : events.countP (·.isStep) + left = registry.length + 4) :
    ∃ final result, draining.run (List.replicate left .step) = some final ∧
      final.phase = .returned result := by
  induction left generalizing events draining with
  | zero =>
      have hdue : draining.phase.due = none := by
        rw [htracked.due_eq, DrainStep.scheduled_eq_none_iff]
        exact Nat.le_of_eq hleft.symm
      cases hphase : draining.phase with
      | returned result => exact ⟨draining, result, rfl, hphase⟩
      | _ =>
          rw [hphase] at hdue
          cases hdue
  | succ left ih =>
      have hdue : draining.phase.due ≠ none := by
        rw [htracked.due_eq, ne_eq, DrainStep.scheduled_eq_none_iff]
        omega
      obtain ⟨after, hnext⟩ := exists_step htracked.stage (htracked.allEnded hend) hdue
      have htaken : (events ++ [DrainEvent.step]).countP (·.isStep) =
          events.countP (·.isStep) + 1 := by
        rw [List.countP_append]
        rfl
      obtain ⟨final, result, hrun, hphase⟩ :=
        ih (htracked.step hnext) (hend.append _) (by omega)
      refine ⟨final, result, ?_, hphase⟩
      rw [run, List.replicate_succ, List.foldlM_cons, hnext]
      exact hrun

end Draining

end LineLog
