import LineLog.Proofs.Registry.Reaping

/-!
# The calls of the owner

A sweep removes and joins those workers whose flag was set when it looked, and leaves
the others where they are.  Joining all empties the registry.
-/

namespace LineLog

def flagged (looks : List (Nat × Bool)) : List Nat :=
  (looks.filter (·.2)).map (·.1)

theorem flagged_snoc (looks : List (Nat × Bool)) (key : Nat) (flag : Bool) :
    flagged (looks ++ [(key, flag)]) = if flag then flagged looks ++ [key] else flagged looks := by
  cases flag <;> simp [flagged]

/-- The flagged keys come in the order in which the sweep has looked at them. -/
theorem flagged_sublist (looks : List (Nat × Bool)) : (flagged looks).Sublist (looks.map (·.1)) :=
  List.filter_sublist.map _

def SweepEvent.isWork : SweepEvent → Bool
  | .step | .finish _ _ => true
  | .insert _ | .reap | .joinAll => false

namespace JoinSummary

theorem ofEndings_snoc (endings : List Ending) (ending : Ending) :
    ofEndings (endings ++ [ending]) = (ofEndings endings).record ending := by
  rw [ofEndings, List.foldl_append]
  rfl

end JoinSummary

namespace Sweep

variable {start sweep after : Sweep} {events : List SweepEvent} {event : SweepEvent}
  {looks : List (Nat × Bool)} {removed : List Joined}

/-! ## Reaping -/

def reaping (start : Sweep) : Sweep :=
  { start with phase := .looking (start.registry.entries.map (·.1)) [] }

/-- On the run over `events` a sweep looks at the worker under a key, and finds its flag
set or not. -/
def Looked (start : Sweep) (events : List SweepEvent) (look : Nat × Bool) : Prop :=
  ∃ before earlier later unseen noted,
    TakesStep next start events before .step earlier later ∧
      earlier.phase = .looking (look.1 :: unseen) noted ∧ look.2 = earlier.registry.isDoneAt look.1

/-- What a sweep has seen is not changed by what happens later. -/
theorem Looked.extend {look : Nat × Bool} (hlooked : Looked start events look)
    (more : List SweepEvent) : Looked start (events ++ more) look := by
  obtain ⟨before, earlier, later, unseen, noted, hstep, hphase, hflag⟩ := hlooked
  exact ⟨before, earlier, later, unseen, noted, hstep.extend more, hphase, hflag⟩

/-- What a sweep has done to the registry so far: `removed` were removed and joined. -/
structure Removes (start : Sweep) (removed : List Joined) (sweep : Sweep) : Prop where
  joined : sweep.joined = start.joined ++ removed
  inserted : sweep.inserted = start.inserted
  /-- Those that were removed had been under their keys when the sweep began. -/
  gone : ∀ record ∈ removed, sweep.registry.get? record.key = none ∧
    start.registry.handleAt? record.key = some record.worker.bare
  /-- All others are still under theirs. -/
  kept : ∀ key, key ∉ removed.map (·.key) →
    sweep.registry.handleAt? key = start.registry.handleAt? key

namespace Removes

theorem nil (start : Sweep) : start.Removes [] start.reaping where
  joined := (List.append_nil _).symm
  inserted := rfl
  gone := nofun
  kept _ _ := rfl

/-- A task that ends takes nothing away from what the sweep has done. -/
theorem finish (hremoves : start.Removes removed sweep) (key : Nat) (ending : Ending) :
    start.Removes removed (sweep.finish key ending) where
  joined := hremoves.joined
  inserted := hremoves.inserted
  gone record hrecord := by
    obtain ⟨hvacant, hformer⟩ := hremoves.gone record hrecord
    refine ⟨?_, hformer⟩
    rw [Sweep.finish, Registry.get?_finish, hvacant]
    exact ite_self none
  kept other hother :=
    (Registry.handleAt?_finish _ key ending other).trans (hremoves.kept other hother)

/-- One worker more is removed and joined. -/
theorem remove (hremoves : start.Removes removed sweep) {key : Nat} {worker : Worker}
    (hworker : sweep.registry.get? key = some worker) (hfresh : key ∉ removed.map (·.key))
    (ending : Ending) (phase : SweepPhase) :
    start.Removes (removed ++ [⟨key, worker, ending⟩])
      { sweep.join key worker ending with registry := sweep.registry.remove key, phase } where
  joined := by
    rw [Sweep.join, hremoves.joined, List.append_assoc]
  inserted := hremoves.inserted
  gone record hrecord := by
    rcases List.mem_append.mp hrecord with hrecord | hrecord
    · obtain ⟨hvacant, hformer⟩ := hremoves.gone record hrecord
      refine ⟨?_, hformer⟩
      rw [Registry.get?_remove, hvacant]
      exact ite_self none
    · obtain rfl := List.mem_singleton.mp hrecord
      refine ⟨by rw [Registry.get?_remove, if_pos rfl], ?_⟩
      rw [← hremoves.kept key hfresh, Registry.handleAt?, hworker]
      rfl
  kept other hother := by
    rw [List.map_append, List.mem_append, not_or] at hother
    obtain ⟨hremoved, hne⟩ := hother
    rw [Registry.handleAt?_remove (by simpa using hne)]
    exact hremoves.kept other hremoved

end Removes

/-- How far a sweep has come that has looked at `looks` and removed `removed`. -/
inductive ReapStage (start : Sweep) (looks : List (Nat × Bool)) (removed : List Joined)
    (sweep : Sweep) : Prop where
  | looking (unseen : List Nat) (hphase : sweep.phase = .looking unseen (flagged looks))
      (hkeys : looks.map (·.1) ++ unseen = start.registry.entries.map (·.1))
      (hremoved : removed = []) (hsummaries : sweep.summaries = start.summaries)
  | removing (noted : List Nat)
      (hphase : sweep.phase = .reaping noted (.ofEndings (removed.map (·.ending))))
      (hkeys : looks.map (·.1) = start.registry.entries.map (·.1))
      (hnoted : removed.map (·.key) ++ noted = flagged looks)
      (hsummaries : sweep.summaries = start.summaries)
  | returned (hphase : sweep.phase = .idle)
      (hkeys : looks.map (·.1) = start.registry.entries.map (·.1))
      (hremoved : removed.map (·.key) = flagged looks)
      (hsummaries : sweep.summaries =
        start.summaries ++ [.ofEndings (removed.map (·.ending))])

/-- The end of a task does not keep a sweep from going on. -/
theorem ReapStage.finish (hstage : ReapStage start looks removed sweep) (key : Nat)
    (ending : Ending) : ReapStage start looks removed (sweep.finish key ending) := by
  cases hstage with
  | looking unseen hphase hkeys hremoved hsummaries =>
      exact .looking unseen (by rw [Sweep.finish, hphase]; rfl) hkeys hremoved hsummaries
  | removing noted hphase hkeys hnoted hsummaries =>
      exact .removing noted (by rw [Sweep.finish, hphase]; rfl) hkeys hnoted hsummaries
  | returned hphase hkeys hremoved hsummaries =>
      exact .returned (by rw [Sweep.finish, hphase]; rfl) hkeys hremoved hsummaries

/-- What a sweep that began in `start` has seen and done so far. -/
structure Reaps (start : Sweep) (events : List SweepEvent) (looks : List (Nat × Bool))
    (removed : List Joined) (sweep : Sweep) : Prop where
  looked : ∀ look ∈ looks, Looked start.reaping events look
  removes : start.Removes removed sweep
  stage : ReapStage start looks removed sweep

/-- Each step of a sweep looks at the next worker, notes it, removes a noted one or returns; tasks
may end in between. -/
theorem reaps_next (hrun : start.reaping.run events = some sweep)
    (hreaps : start.Reaps events looks removed sweep) (hwork : event.isWork = true)
    (hnext : sweep.next event = some after) :
    ∃ looks removed, start.Reaps (events ++ [event]) looks removed after := by
  obtain ⟨hlooked, hremoves, hstage⟩ := hreaps
  have hbefore (look : Nat × Bool) (hlook : look ∈ looks) :
      Looked start.reaping (events ++ [event]) look := (hlooked look hlook).extend [event]
  cases stepped_of_next hnext with
  | inserted | began | drained => cases hwork
  | finished key ending =>
      exact ⟨looks, removed, hbefore, hremoves.finish key ending, hstage.finish key ending⟩
  | looked key unseen noted hphase =>
      cases hstage with
      | removing _ hother => cases hphase.symm.trans hother
      | returned hother => cases hphase.symm.trans hother
      | looking others hother hkeys hremoved hsummaries =>
          cases hphase.symm.trans hother
          refine ⟨looks ++ [(key, sweep.registry.isDoneAt key)], removed, ?_,
            ⟨hremoves.joined, hremoves.inserted, hremoves.gone, hremoves.kept⟩, ?_⟩
          · intro look hlook
            rcases List.mem_append.mp hlook with hlook | hlook
            · exact hbefore look hlook
            · rw [List.mem_singleton.mp hlook]
              exact ⟨events, sweep, _, unseen, _, TakesStep.last hrun hnext, hphase, rfl⟩
          · refine .looking unseen ?_ (by simpa using hkeys) hremoved hsummaries
            rw [flagged_snoc]
            rfl
  | noted noted hphase =>
      cases hstage with
      | removing _ hother => cases hphase.symm.trans hother
      | returned hother => cases hphase.symm.trans hother
      | looking others hother hkeys hremoved hsummaries =>
          cases hphase.symm.trans hother
          subst hremoved
          refine ⟨looks, [], hbefore,
            ⟨hremoves.joined, hremoves.inserted, hremoves.gone, hremoves.kept⟩, ?_⟩
          exact .removing (flagged looks) rfl (by simpa using hkeys) rfl hsummaries
  | reaped key noted summary worker ending hphase hworker =>
      cases hstage with
      | looking _ hother => cases hphase.symm.trans hother
      | returned hother => cases hphase.symm.trans hother
      | removing others hother hkeys hnoted hsummaries =>
          cases hphase.symm.trans hother
          -- the sweep looks at each worker once, so it has not removed this one before
          have hnodup : (removed.map (·.key) ++ key :: noted).Nodup := by
            rw [hnoted]
            refine (flagged_sublist looks).nodup ?_
            rw [hkeys]
            exact start.registry.nodup_keys
          have hfresh : key ∉ removed.map (·.key) := fun hmem =>
            (List.nodup_append.mp hnodup).2.2 key hmem key List.mem_cons_self rfl
          refine ⟨looks, removed ++ [⟨key, worker, ending⟩], hbefore,
            hremoves.remove hworker hfresh ending _, ?_⟩
          refine .removing noted ?_ hkeys (by simpa using hnoted) hsummaries
          rw [List.map_append, List.map_singleton, JoinSummary.ofEndings_snoc]
  | awaited key worker rest summary ending hphase =>
      cases hstage with
      | looking _ hother | removing _ hother => cases hphase.symm.trans hother
      | returned hother => cases hphase.symm.trans hother
  | returned summary hphase =>
      refine ⟨looks, removed, hbefore,
        ⟨hremoves.joined, hremoves.inserted, hremoves.gone, hremoves.kept⟩, ?_⟩
      cases hstage with
      | looking _ hother => rcases hphase with hphase | hphase <;> cases hphase.symm.trans hother
      | returned hother => rcases hphase with hphase | hphase <;> cases hphase.symm.trans hother
      | removing others hother hkeys hnoted hsummaries =>
          rcases hphase with hphase | hphase
          · cases hphase.symm.trans hother
            refine .returned rfl hkeys (by simpa using hnoted) ?_
            rw [finishCall, hsummaries]
          · cases hphase.symm.trans hother

/-- How far a sweep has come is known after any steps of its own and of the tasks. -/
theorem reaps_of_run (hrun : start.reaping.run events = some sweep)
    (hwork : ∀ event ∈ events, event.isWork = true) :
    ∃ looks removed, start.Reaps events looks removed sweep := by
  refine foldlM_induction (fun events sweep => (∀ event ∈ events, event.isWork = true) →
    ∃ looks removed, start.Reaps events looks removed sweep) ?_ ?_ hrun hwork
  · intro _
    refine ⟨[], [], nofun, .nil start, .looking _ rfl rfl rfl rfl⟩
  · intro events sweep event after hrun ih hnext hwork
    obtain ⟨hevents, hevent⟩ := List.forall_mem_append.mp hwork
    obtain ⟨looks, removed, hreaps⟩ := ih hevents
    exact reaps_next hrun hreaps (hevent event List.mem_cons_self) hnext

/-! ## Joining all -/

/-- Every worker has been taken out to be joined. -/
def joining (start : Sweep) : Sweep :=
  { start with registry := .empty, phase := .joining start.registry.entries .zero }

inductive JoinStage (start : Sweep) (removed : List Joined) (sweep : Sweep) : Prop where
  | joining (rest : List (Nat × Worker))
      (hphase : sweep.phase = .joining rest (.ofEndings (removed.map (·.ending))))
      (hsummaries : sweep.summaries = start.summaries)
  | returned (hphase : sweep.phase = .idle)
      (hsummaries : sweep.summaries =
        start.summaries ++ [.ofEndings (removed.map (·.ending))])

/-- What joining all has done so far: `removed` were joined, the others wait for it. -/
structure Drains (start : Sweep) (removed : List Joined) (sweep : Sweep) : Prop where
  registry : sweep.registry = .empty
  joined : sweep.joined = start.joined ++ removed
  inserted : sweep.inserted = start.inserted
  handles : (removed.map Joined.entry ++ sweep.phase.pending).map handle =
    start.registry.entries.map handle
  stage : JoinStage start removed sweep

theorem drains_joining (start : Sweep) : start.Drains [] start.joining where
  registry := rfl
  joined := (List.append_nil _).symm
  inserted := rfl
  handles := rfl
  stage := .joining _ rfl rfl

/-- A task that ends while all are joined stays where it is, to be joined. -/
theorem Drains.finish (hdrains : start.Drains removed sweep) (key : Nat) (ending : Ending) :
    start.Drains removed (sweep.finish key ending) where
  registry := by
    rw [Sweep.finish, hdrains.registry]
    rfl
  joined := hdrains.joined
  inserted := hdrains.inserted
  handles := by
    rw [Sweep.finish, pending_finish, List.map_append, map_handle_finishEntry, ← List.map_append]
    exact hdrains.handles
  stage := by
    cases hdrains.stage with
    | joining rest hphase hsummaries =>
        exact .joining (rest.map (SweepPhase.finishEntry key ending))
          (by rw [Sweep.finish, hphase]; rfl) hsummaries
    | returned hphase hsummaries => exact .returned (by rw [Sweep.finish, hphase]; rfl) hsummaries

/-- Each step of the joining joins the first worker that is left. -/
theorem drains_next (hdrains : start.Drains removed sweep) (hwork : event.isWork = true)
    (hnext : sweep.next event = some after) : ∃ removed, start.Drains removed after := by
  have hhandles := hdrains.handles
  cases stepped_of_next hnext with
  | inserted | began | drained => cases hwork
  | finished key ending => exact ⟨removed, hdrains.finish key ending⟩
  | looked _ _ _ hphase | noted _ hphase | reaped _ _ _ _ _ hphase =>
      cases hdrains.stage with
      | joining _ hother => cases hphase.symm.trans hother
      | returned hother => cases hphase.symm.trans hother
  | awaited key worker rest summary ending hphase =>
      cases hdrains.stage with
      | returned hother => cases hphase.symm.trans hother
      | joining others hother hsummaries =>
          cases hphase.symm.trans hother
          rw [hphase] at hhandles
          refine ⟨removed ++ [⟨key, worker, ending⟩], hdrains.registry, ?_, hdrains.inserted,
            ?_, ?_⟩
          · rw [Sweep.join, hdrains.joined, List.append_assoc]
          · rw [← hhandles]
            simp [SweepPhase.pending, Joined.entry]
          · refine .joining rest ?_ hsummaries
            rw [List.map_append, List.map_singleton, JoinSummary.ofEndings_snoc]
  | returned summary hphase =>
      cases hdrains.stage with
      | returned hother => rcases hphase with hphase | hphase <;> cases hphase.symm.trans hother
      | joining others hother hsummaries =>
          rcases hphase with hphase | hphase
          · cases hphase.symm.trans hother
          · cases hphase.symm.trans hother
            rw [hphase] at hhandles
            refine ⟨removed, hdrains.registry, hdrains.joined, hdrains.inserted, hhandles, ?_⟩
            exact .returned rfl (by rw [finishCall, hsummaries])

/-- How far the joining of all has come is known after any steps. -/
theorem drains_of_run (hrun : start.joining.run events = some sweep)
    (hwork : ∀ event ∈ events, event.isWork = true) : ∃ removed, start.Drains removed sweep := by
  refine foldlM_induction (fun events sweep => (∀ event ∈ events, event.isWork = true) →
    ∃ removed, start.Drains removed sweep) ?_ ?_ hrun hwork
  · exact fun _ => ⟨[], drains_joining start⟩
  · intro events sweep event after _ ih hnext hwork
    obtain ⟨hevents, hevent⟩ := List.forall_mem_append.mp hwork
    obtain ⟨removed, hdrains⟩ := ih hevents
    exact drains_next hdrains (hevent event List.mem_cons_self) hnext

/-- Joining all once more changes nothing and counts nobody. -/
theorem run_joinAll_of_empty (hregistry : sweep.registry = .empty) (hphase : sweep.phase = .idle) :
    sweep.run [.joinAll, .step] = some { sweep with summaries := sweep.summaries ++ [.zero] } := by
  obtain ⟨registry, phase, inserted, joined, summaries⟩ := sweep
  subst hregistry hphase
  rfl

end Sweep

end LineLog
