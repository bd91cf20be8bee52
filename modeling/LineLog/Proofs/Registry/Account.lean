import LineLog.Proofs.Registry.Calls

/-!
# The account of the registry

What becomes of the workers that are registered over a whole run, whichever calls are
made and whenever the tasks end: each is joined once, after its task has ended, and the
summaries that the calls return add up.
-/

namespace LineLog

def SweepEvent.inserted? : SweepEvent → Option Worker
  | .insert worker => some worker
  | _ => none

namespace Sweep

variable {sweep after : Sweep} {events : List SweepEvent} {event : SweepEvent}

structure Kept (events : List SweepEvent) (sweep : Sweep) : Prop where
  tidy : sweep.registry.Tidy
  conserves : sweep.Conserves
  inserts : sweep.inserted.map (·.2) = events.filterMap SweepEvent.inserted?
  witnessed : Witnessed events sweep.known
  ended : ∀ record ∈ sweep.joined, record.worker.ending = some record.ending
  counts : sweep.Counts
  ready : sweep.Ready

theorem kept_initial : Kept [] initial where
  tidy := Registry.tidy_empty
  conserves := .refl _
  inserts := rfl
  witnessed := nofun
  ended := nofun
  counts := ⟨rfl, rfl⟩
  ready := trivial

/-- Every registration is recorded, and nothing else. -/
theorem inserts_next (hinserts : sweep.inserted.map (·.2) = events.filterMap SweepEvent.inserted?)
    (hnext : sweep.next event = some after) :
    after.inserted.map (·.2) = (events ++ [event]).filterMap SweepEvent.inserted? := by
  rw [List.filterMap_append, ← hinserts]
  cases stepped_of_next hnext with
  | inserted worker => exact List.map_append
  | _ => exact (List.append_nil _).symm

/-- The invariants of the single steps hold after a run. -/
theorem kept_of_run (hrun : initial.run events = some sweep) : Kept events sweep := by
  refine foldlM_induction Kept kept_initial ?_ hrun
  intro events sweep event after hrun hkept hnext
  exact
    { tidy := tidy_next hkept.tidy hnext
      conserves := conserves_next hkept.tidy hkept.conserves hnext
      inserts := inserts_next hkept.inserts hnext
      witnessed := witnessed_next hrun hkept.tidy hkept.witnessed hnext
      ended := ending_of_joined_next hkept.ended hnext
      counts := counts_next hkept.counts hnext
      ready := ready_next hkept.ready hnext }

/-- As many workers were registered as are held and were counted. -/
theorem length_inserted (hkept : Kept events sweep) :
    sweep.registry.length + sweep.phase.pending.length +
        ((sweep.summaries.map (·.joined)).sum + sweep.phase.summary.joined) =
      sweep.inserted.length := by
  have hlength := hkept.conserves.length_eq
  simp only [known, held, List.length_map, List.length_append] at hlength
  rw [hlength, ← hkept.counts.joined, Registry.length]
  exact Nat.add_comm _ _

/-- What the registry and its calls do with the workers on the run over `events`. -/
structure Balanced (events : List SweepEvent) (final : Sweep) : Prop where
  inserts : final.inserted.map (·.2) = events.filterMap SweepEvent.inserted?
  /-- Every worker that was registered is held or was joined, and is so once. -/
  conserves : (final.inserted.map handle).Perm
    ((final.joined.map Joined.entry).map handle ++ final.held.map handle)
  /-- A worker is registered under a key that no other has, and keeps it. -/
  fresh : ∀ before worker earlier later,
    TakesStep next initial events before (.insert worker) earlier later →
      ∃ key, later.inserted = earlier.inserted ++ [(key, worker)] ∧
        earlier.registry.get? key = none ∧ later.registry.get? key = some worker ∧
        ∀ other, other ≠ key → later.registry.get? other = earlier.registry.get? other
  /-- The task of a worker has ended when it is joined. -/
  ended : ∀ record ∈ final.joined, HasEnded events record.key record.worker record.ending
  length : final.registry.length + final.phase.pending.length +
      ((final.summaries.map (·.joined)).sum + final.phase.summary.joined) =
    final.inserted.length
  panicked : (final.summaries.map (·.panicked)).sum + final.phase.summary.panicked =
    final.joined.countP (·.ending = .panicked)
  /-- A sweep that has returned has removed those workers whose flag was set when it
  looked, and joined them; all others are where they were. -/
  reaped : ∀ before middle start, events = before ++ .reap :: middle →
    initial.run before = some start → (∀ event ∈ middle, event.isWork = true) →
      final.phase = .idle →
        ∃ looks removed, looks.map (·.1) = start.registry.entries.map (·.1) ∧
          (∀ look ∈ looks, Looked start.reaping middle look) ∧
          removed.map (·.key) = flagged looks ∧ start.Removes removed final ∧
          final.summaries = start.summaries ++ [.ofEndings (removed.map (·.ending))]
  /-- Joining all leaves nobody in the registry, and nothing to do for another time. -/
  emptied : ∀ before middle start, events = before ++ .joinAll :: middle →
    initial.run before = some start → (∀ event ∈ middle, event.isWork = true) →
      final.phase = .idle →
        final.registry = .empty ∧
          (∃ removed, final.joined = start.joined ++ removed ∧
            (removed.map Joined.entry).map handle = start.registry.entries.map handle ∧
            final.summaries = start.summaries ++ [.ofEndings (removed.map (·.ending))]) ∧
          (final.inserted.map handle).Perm ((final.joined.map Joined.entry).map handle) ∧
          final.run [.joinAll, .step] =
            some { final with summaries := final.summaries ++ [.zero] }
  /-- A sweep always returns, and joining all does when the tasks have ended that it
  waits for. -/
  returns : (∀ entry ∈ final.phase.pending, entry.2.isDone = true) → final.Returns

/-- A new worker gets a key that nobody has, and the others keep theirs. -/
theorem fresh_next {worker : Worker} (htidy : sweep.registry.Tidy)
    (hnext : sweep.next (.insert worker) = some after) :
    ∃ key, after.inserted = sweep.inserted ++ [(key, worker)] ∧
      sweep.registry.get? key = none ∧ after.registry.get? key = some worker ∧
      ∀ other, other ≠ key → after.registry.get? other = sweep.registry.get? other := by
  cases stepped_of_next hnext with
  | inserted =>
      refine ⟨_, rfl, htidy.get?_key worker, ?_, fun other hother => ?_⟩
      · rw [htidy.get?_insert, if_pos rfl]
      · rw [htidy.get?_insert, if_neg hother]

/-- The run of a call is what comes after its beginning. -/
theorem exists_begun {before middle : List SweepEvent} {start : Sweep}
    (hrun : initial.run (before ++ event :: middle) = some sweep)
    (hbefore : initial.run before = some start) :
    ∃ begun, start.next event = some begun ∧ begun.run middle = some sweep := by
  obtain ⟨reached, hreached, hrest⟩ := foldlM_append_eq_some_iff.mp hrun
  obtain rfl := Option.some.inj (hbefore.symm.trans hreached)
  exact Option.bind_eq_some_iff.mp hrest

/-- A sweep removes and joins exactly the workers whose flags it has found set when it looked at
them, whatever tasks end meanwhile. -/
theorem reaped_of_run {before middle : List SweepEvent} {start : Sweep}
    (hrun : initial.run (before ++ .reap :: middle) = some sweep)
    (hbefore : initial.run before = some start) (hwork : ∀ event ∈ middle, event.isWork = true)
    (hidle : sweep.phase = .idle) :
    ∃ looks removed, looks.map (·.1) = start.registry.entries.map (·.1) ∧
      (∀ look ∈ looks, Looked start.reaping middle look) ∧
      removed.map (·.key) = flagged looks ∧ start.Removes removed sweep ∧
      sweep.summaries = start.summaries ++ [.ofEndings (removed.map (·.ending))] := by
  obtain ⟨begun, hbegun, hmiddle⟩ := exists_begun hrun hbefore
  cases stepped_of_next hbegun with
  | began =>
      obtain ⟨looks, removed, hreaps⟩ := reaps_of_run hmiddle hwork
      cases hreaps.stage with
      | looking _ hphase => cases hidle.symm.trans hphase
      | removing _ hphase => cases hidle.symm.trans hphase
      | returned _ hkeys hremoved hsummaries =>
          exact ⟨looks, removed, hkeys, hreaps.looked, hremoved, hreaps.removes, hsummaries⟩

/-- Joining all empties the registry and joins every worker that was in it. -/
theorem emptied_of_run {before middle : List SweepEvent} {start : Sweep}
    (hrun : initial.run (before ++ .joinAll :: middle) = some sweep)
    (hbefore : initial.run before = some start) (hwork : ∀ event ∈ middle, event.isWork = true)
    (hidle : sweep.phase = .idle) :
    sweep.registry = .empty ∧ ∃ removed, sweep.joined = start.joined ++ removed ∧
      (removed.map Joined.entry).map handle = start.registry.entries.map handle ∧
      sweep.summaries = start.summaries ++ [.ofEndings (removed.map (·.ending))] := by
  obtain ⟨begun, hbegun, hmiddle⟩ := exists_begun hrun hbefore
  cases stepped_of_next hbegun with
  | drained =>
      obtain ⟨removed, hdrains⟩ := drains_of_run hmiddle hwork
      have hpending : sweep.phase.pending = [] := by
        rw [hidle]
        rfl
      have hhandles := hdrains.handles
      rw [hpending, List.append_nil] at hhandles
      cases hdrains.stage with
      | joining _ hphase => cases hidle.symm.trans hphase
      | returned _ hsummaries =>
          exact ⟨hdrains.registry, removed, hdrains.joined, hhandles, hsummaries⟩

/-- Whatever tasks end between any two steps, every registered worker is held or was joined,
exactly once, and the summaries count those that were joined. -/
theorem balanced_of_run (hrun : initial.run events = some sweep) : Balanced events sweep where
  inserts := (kept_of_run hrun).inserts
  conserves := by
    have hconserves := (kept_of_run hrun).conserves
    rwa [Conserves, known, List.map_append] at hconserves
  fresh := by
    intro before worker earlier later hstep
    exact fresh_next (kept_of_run hstep.run_before).tidy hstep.next_eq
  ended := by
    intro record hrecord
    have hknown : record.entry ∈ sweep.known :=
      List.mem_append_left _ (List.mem_map_of_mem hrecord)
    exact (kept_of_run hrun).witnessed record.entry hknown record.ending
      ((kept_of_run hrun).ended record hrecord)
  length := length_inserted (kept_of_run hrun)
  panicked := (kept_of_run hrun).counts.panicked.symm
  reaped := by
    rintro before middle start rfl hbefore hwork hidle
    exact reaped_of_run hrun hbefore hwork hidle
  emptied := by
    rintro before middle start rfl hbefore hwork hidle
    obtain ⟨hregistry, hremoved⟩ := emptied_of_run hrun hbefore hwork hidle
    refine ⟨hregistry, hremoved, ?_, run_joinAll_of_empty hregistry hidle⟩
    have hheld : sweep.held = [] := by
      rw [held_of_idle hidle, hregistry]
      rfl
    have hconserves := (kept_of_run hrun).conserves
    rwa [Conserves, known, hheld, List.append_nil] at hconserves
  returns := returns_of_ready (kept_of_run hrun).ready

section Example

/-- Two workers are registered, and one of them ends when the sweep has looked at it, so
that only the next sweep removes it.  Its slot is used again, by a worker that has ended
already; then all are joined, and the last one panics meanwhile. -/
private def reusedSlotEvents : List SweepEvent :=
  let peer := .v4 .unspecified 4000
  [.insert ⟨1, peer, none⟩, .insert ⟨2, peer, none⟩,
    .reap, .step, .finish 0 .returned, .step, .step, .step,
    .reap, .step, .step, .step, .step, .step,
    .insert ⟨3, peer, some .returned⟩,
    .joinAll, .step, .finish 1 .panicked, .step, .step]

/-- A slot that was used twice stands for two workers, and both are accounted for. -/
theorem balanced_of_reusedSlotEvents :
    ∃ sweep, initial.run reusedSlotEvents = some sweep ∧
      sweep.joined.map (fun record => (record.key, record.worker.id, record.ending)) =
        [(0, 1, .returned), (0, 3, .returned), (1, 2, .panicked)] ∧
      sweep.summaries = [⟨0, 0⟩, ⟨1, 0⟩, ⟨2, 1⟩] ∧ Balanced reusedSlotEvents sweep :=
  ⟨_, rfl, rfl, rfl, balanced_of_run rfl⟩

end Example

end Sweep

end LineLog
