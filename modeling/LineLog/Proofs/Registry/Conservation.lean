import LineLog.Proofs.Registry.Slots
import LineLog.Proofs.Run
import Mathlib.Algebra.Ring.Nat

/-!
# Conservation of the workers

Every worker that was registered is in the registry, was taken out to be joined, or
was joined.  No step loses one or joins one twice, whichever tasks end in between, and
the summaries count what was joined.
-/

namespace LineLog

namespace Worker

/-- The worker apart from what becomes of its task. -/
def bare (worker : Worker) : Worker :=
  { worker with ending := none }

theorem bare_finish (ending : Ending) (worker : Worker) :
    (worker.finish ending).bare = worker.bare := rfl

end Worker

namespace SweepPhase

def pending : SweepPhase → List (Nat × Worker)
  | .joining rest _ => rest
  | _ => []

def summary : SweepPhase → JoinSummary
  | .reaping _ summary | .joining _ summary => summary
  | _ => .zero

end SweepPhase

def Joined.entry (record : Joined) : Nat × Worker :=
  (record.key, record.worker)

namespace Sweep

variable {sweep after : Sweep} {events : List SweepEvent} {event : SweepEvent}
  {key : Nat} {worker : Worker} {ending : Ending}

def handle (entry : Nat × Worker) : Nat × Worker :=
  (entry.1, entry.2.bare)

theorem handle_finishEntry (key : Nat) (ending : Ending) (entry : Nat × Worker) :
    handle (SweepPhase.finishEntry key ending entry) = handle entry := by
  unfold SweepPhase.finishEntry
  split
  · next hkey => rw [handle, handle, Worker.bare_finish, hkey]
  · rfl

theorem map_handle_finishEntry (key : Nat) (ending : Ending) (entries : List (Nat × Worker)) :
    (entries.map (SweepPhase.finishEntry key ending)).map handle = entries.map handle := by
  rw [List.map_map]
  exact List.map_congr_left fun entry _ => handle_finishEntry key ending entry

def held (sweep : Sweep) : List (Nat × Worker) :=
  sweep.registry.entries ++ sweep.phase.pending

def known (sweep : Sweep) : List (Nat × Worker) :=
  sweep.joined.map Joined.entry ++ sweep.held

/-! ## What a step does -/

inductive Stepped (sweep : Sweep) : SweepEvent → Sweep → Prop where
  | inserted (worker : Worker) (hphase : sweep.phase = .idle) :
      Stepped sweep (.insert worker)
        { sweep with
          registry := (sweep.registry.insert worker).1
          inserted := sweep.inserted ++ [((sweep.registry.insert worker).2, worker)] }
  | began (hphase : sweep.phase = .idle) :
      Stepped sweep .reap
        { sweep with phase := .looking (sweep.registry.entries.map (·.1)) [] }
  | drained (hphase : sweep.phase = .idle) :
      Stepped sweep .joinAll
        { sweep with registry := .empty, phase := .joining sweep.registry.entries .zero }
  | finished (key : Nat) (ending : Ending) :
      Stepped sweep (.finish key ending) (sweep.finish key ending)
  | looked (key : Nat) (unseen noted : List Nat)
      (hphase : sweep.phase = .looking (key :: unseen) noted) :
      Stepped sweep .step
        { sweep with
          phase := .looking unseen
            (if (sweep.registry.get? key).any (·.isDone) then noted ++ [key] else noted) }
  | noted (noted : List Nat) (hphase : sweep.phase = .looking [] noted) :
      Stepped sweep .step { sweep with phase := .reaping noted .zero }
  | reaped (key : Nat) (noted : List Nat) (summary : JoinSummary) (worker : Worker)
      (ending : Ending) (hphase : sweep.phase = .reaping (key :: noted) summary)
      (hworker : sweep.registry.get? key = some worker) (hending : worker.ending = some ending) :
      Stepped sweep .step
        { sweep.join key worker ending with
          registry := sweep.registry.remove key
          phase := .reaping noted (summary.record ending) }
  | awaited (key : Nat) (worker : Worker) (rest : List (Nat × Worker)) (summary : JoinSummary)
      (ending : Ending) (hphase : sweep.phase = .joining ((key, worker) :: rest) summary)
      (hending : worker.ending = some ending) :
      Stepped sweep .step
        { sweep.join key worker ending with phase := .joining rest (summary.record ending) }
  | returned (summary : JoinSummary)
      (hphase : sweep.phase = .reaping [] summary ∨ sweep.phase = .joining [] summary) :
      Stepped sweep .step (sweep.finishCall summary)

theorem stepped_of_step (hstep : sweep.step = some after) : Stepped sweep .step after := by
  unfold step at hstep
  split at hstep
  · cases hstep
  · next noted hphase =>
    obtain rfl := Option.some.inj hstep
    exact .noted noted hphase
  · next key unseen noted hphase =>
    obtain rfl := Option.some.inj hstep
    exact .looked key unseen noted hphase
  · next summary hphase =>
    obtain rfl := Option.some.inj hstep
    exact .returned summary (.inl hphase)
  · next key noted summary hphase =>
    obtain ⟨worker, hworker, hrest⟩ := Option.bind_eq_some_iff.mp hstep
    obtain ⟨ending, hending, hafter⟩ := Option.bind_eq_some_iff.mp hrest
    obtain rfl := Option.some.inj hafter
    exact .reaped key noted summary worker ending hphase hworker hending
  · next summary hphase =>
    obtain rfl := Option.some.inj hstep
    exact .returned summary (.inr hphase)
  · next key worker rest summary hphase =>
    obtain ⟨ending, hending, hafter⟩ := Option.bind_eq_some_iff.mp hstep
    obtain rfl := Option.some.inj hafter
    exact .awaited key worker rest summary ending hphase hending

/-- Every step is one of those listed, so invariants are proved by cases on these. -/
theorem stepped_of_next (hnext : sweep.next event = some after) : Stepped sweep event after := by
  cases event with
  | finish key ending =>
      obtain rfl := Option.some.inj hnext
      exact .finished key ending
  | step => exact stepped_of_step hnext
  | insert worker =>
      obtain ⟨hphase, hafter⟩ := Option.ite_none_right_eq_some.mp hnext
      obtain rfl := Option.some.inj hafter
      exact .inserted worker hphase
  | reap =>
      obtain ⟨hphase, hafter⟩ := Option.ite_none_right_eq_some.mp hnext
      obtain rfl := Option.some.inj hafter
      exact .began hphase
  | joinAll =>
      obtain ⟨hphase, hafter⟩ := Option.ite_none_right_eq_some.mp hnext
      obtain rfl := Option.some.inj hafter
      exact .drained hphase

/-! ## Nothing is lost -/

theorem pending_finish (key : Nat) (ending : Ending) (phase : SweepPhase) :
    (phase.finish key ending).pending = phase.pending.map (SweepPhase.finishEntry key ending) := by
  cases phase <;> rfl

theorem held_finish (key : Nat) (ending : Ending) (sweep : Sweep) :
    (sweep.finish key ending).held = sweep.held.map (SweepPhase.finishEntry key ending) := by
  rw [held, held, List.map_append, ← pending_finish, ← Registry.entries_finish]
  rfl

theorem held_of_idle (hphase : sweep.phase = .idle) : sweep.held = sweep.registry.entries := by
  rw [held, hphase]
  exact List.append_nil _

/-- A worker that is joined is not held any more. -/
theorem known_join {held following : List (Nat × Worker)} (records : List Joined)
    (hheld : held.Perm ((key, worker) :: following)) :
    ((records ++ [(⟨key, worker, ending⟩ : Joined)]).map Joined.entry ++ following).Perm
      (records.map Joined.entry ++ held) := by
  rw [List.map_append, List.append_assoc]
  exact hheld.symm.append_left _

/-- Only registering makes more workers known, and only the end of a task changes one. -/
theorem known_next (htidy : sweep.registry.Tidy) (hnext : sweep.next event = some after) :
    (∃ key worker, event = .insert worker ∧ key = (sweep.registry.insert worker).2 ∧
      after.inserted = sweep.inserted ++ [(key, worker)] ∧
      after.known.Perm ((key, worker) :: sweep.known)) ∨
    (∃ key ending, event = .finish key ending ∧ after.inserted = sweep.inserted ∧
      after.joined = sweep.joined ∧
      after.held = sweep.held.map (SweepPhase.finishEntry key ending)) ∨
    (after.inserted = sweep.inserted ∧ after.known.Perm sweep.known) := by
  cases stepped_of_next hnext with
  | inserted worker hphase =>
      refine .inl ⟨_, worker, rfl, rfl, rfl, ?_⟩
      have hheld := htidy.entries_insert worker
      rw [← held_of_idle hphase] at hheld
      rw [known, held, hphase]
      refine (List.Perm.append_left _ ?_).trans List.perm_middle
      exact (List.Perm.of_eq (List.append_nil _)).trans hheld
  | finished key ending =>
      exact .inr (.inl ⟨key, ending, rfl, rfl, rfl, held_finish key ending sweep⟩)
  | began hphase | noted noted hphase | looked key unseen noted hphase =>
      refine .inr (.inr ⟨rfl, ?_⟩)
      rw [known, known, held, held, hphase]
      exact .refl _
  | drained hphase =>
      refine .inr (.inr ⟨rfl, ?_⟩)
      rw [known, known, held_of_idle hphase]
      exact .refl _
  | reaped key noted summary worker ending hphase hworker =>
      refine .inr (.inr ⟨rfl, known_join sweep.joined ?_⟩)
      rw [held, held, hphase]
      exact (Registry.entries_remove hworker).append_right _
  | awaited key worker rest summary ending hphase =>
      refine .inr (.inr ⟨rfl, known_join sweep.joined ?_⟩)
      rw [held, held, hphase]
      exact List.perm_middle
  | returned summary hphase =>
      refine .inr (.inr ⟨rfl, ?_⟩)
      rw [known, known, held, held]
      rcases hphase with hphase | hphase <;> rw [hphase] <;> exact .refl _

/-- Every worker that was registered is known, and is so once. -/
def Conserves (sweep : Sweep) : Prop :=
  (sweep.inserted.map handle).Perm (sweep.known.map handle)

/-- No step loses a worker or makes it appear twice. -/
theorem conserves_next (htidy : sweep.registry.Tidy) (hconserves : sweep.Conserves)
    (hnext : sweep.next event = some after) : after.Conserves := by
  rcases known_next htidy hnext with
    ⟨key, worker, -, -, hinserted, hknown⟩ | ⟨key, ending, -, hinserted, hjoined, hheld⟩ |
      ⟨hinserted, hknown⟩
  · rw [Conserves, hinserted, List.map_append]
    refine (List.Perm.trans ?_ (hknown.map handle).symm)
    exact (hconserves.append_right _).trans List.perm_append_comm
  · rw [Conserves, hinserted, known, hjoined, hheld, List.map_append, map_handle_finishEntry,
      ← List.map_append]
    exact hconserves
  · rw [Conserves, hinserted]
    exact hconserves.trans (hknown.map handle).symm

/-- The slots stay tidy in every step. -/
theorem tidy_next (htidy : sweep.registry.Tidy) (hnext : sweep.next event = some after) :
    after.registry.Tidy := by
  cases stepped_of_next hnext with
  | inserted worker => exact htidy.insert worker
  | finished key ending => exact htidy.finish key ending
  | drained => exact Registry.tidy_empty
  | reaped key => exact htidy.remove key
  | _ => exact htidy

/-! ## How the tasks ended -/

/-- The task of `worker`, registered under `key`, ends with `ending` in this step, or has
ended before the worker is registered. -/
def Ends (event : SweepEvent) (earlier : Sweep) (key : Nat) (worker : Worker)
    (ending : Ending) : Prop :=
  event = .insert worker ∧ key = (earlier.registry.insert worker).2 ∨
    event = .finish key ending ∧
      ∃ running, (key, running) ∈ earlier.held ∧ running.ending = none ∧
        worker = running.finish ending

def HasEnded (events : List SweepEvent) (key : Nat) (worker : Worker) (ending : Ending) : Prop :=
  worker.ending = some ending ∧
    ∃ before event earlier later,
      TakesStep next initial events before event earlier later ∧
        Ends event earlier key worker ending

/-- A task that has ended stays ended. -/
theorem HasEnded.extend (hended : HasEnded events key worker ending) (more : List SweepEvent) :
    HasEnded (events ++ more) key worker ending := by
  obtain ⟨hending, before, event, earlier, later, hstep, hends⟩ := hended
  exact ⟨hending, before, event, earlier, later, hstep.extend more, hends⟩

def Witnessed (events : List SweepEvent) (entries : List (Nat × Worker)) : Prop :=
  ∀ entry ∈ entries, ∀ ending, entry.2.ending = some ending →
    HasEnded events entry.1 entry.2 ending

/-- A task can only have ended by a step of the run, so the run so far tells how. -/
theorem witnessed_next (hrun : initial.run events = some sweep) (htidy : sweep.registry.Tidy)
    (hwitnessed : Witnessed events sweep.known) (hnext : sweep.next event = some after) :
    Witnessed (events ++ [event]) after.known := by
  have hbefore (entry : Nat × Worker) (hentry : entry ∈ sweep.known) (ending : Ending)
      (hending : entry.2.ending = some ending) :
      HasEnded (events ++ [event]) entry.1 entry.2 ending :=
    (hwitnessed entry hentry ending hending).extend [event]
  intro entry hentry ending hending
  rcases known_next htidy hnext with
    ⟨key, worker, hevent, hkey, -, hknown⟩ | ⟨key, cause, hevent, -, hjoined, hheld⟩ |
      ⟨-, hknown⟩
  · rcases List.mem_cons.mp (hknown.mem_iff.mp hentry) with rfl | hentry
    · exact ⟨hending, events, event, sweep, after, TakesStep.last hrun hnext, .inl ⟨hevent, hkey⟩⟩
    · exact hbefore entry hentry ending hending
  · rw [known, hjoined, hheld] at hentry
    rcases List.mem_append.mp hentry with hentry | hentry
    · exact hbefore entry (List.mem_append_left _ hentry) ending hending
    · obtain ⟨former, hformer, rfl⟩ := List.mem_map.mp hentry
      have hknown : former ∈ sweep.known := List.mem_append_right _ hformer
      unfold SweepPhase.finishEntry at hending ⊢
      split
      · next hkey =>
        rw [if_pos hkey] at hending
        cases hrunning : former.2.ending with
        | some past =>
            rw [Worker.finish_of_isDone cause (Option.isSome_of_eq_some hrunning)] at hending ⊢
            rw [← hkey]
            exact hbefore former hknown ending hending
        | none =>
            obtain rfl : cause = ending := by simpa [Worker.finish, hrunning] using hending
            refine ⟨hending, events, event, sweep, after, TakesStep.last hrun hnext,
              .inr ⟨hevent, ?_⟩⟩
            exact ⟨former.2, by rwa [← hkey], hrunning, rfl⟩
      · next hkey =>
        rw [if_neg hkey] at hending
        exact hbefore former hknown ending hending
  · exact hbefore entry (hknown.mem_iff.mp hentry) ending hending

/-- A worker is joined with the ending of its task. -/
theorem ending_of_joined_next
    (hended : ∀ record ∈ sweep.joined, record.worker.ending = some record.ending)
    (hnext : sweep.next event = some after) :
    ∀ record ∈ after.joined, record.worker.ending = some record.ending := by
  intro record hrecord
  cases stepped_of_next hnext with
  | reaped key noted summary worker ending hphase hworker hending
  | awaited key worker rest summary ending hphase hending =>
      rcases List.mem_append.mp hrecord with hrecord | hrecord
      · exact hended record hrecord
      · obtain rfl := List.mem_singleton.mp hrecord
        exact hending
  | _ => exact hended record hrecord

/-! ## What the summaries count -/

structure Counts (sweep : Sweep) : Prop where
  joined : sweep.joined.length =
    (sweep.summaries.map (·.joined)).sum + sweep.phase.summary.joined
  panicked : sweep.joined.countP (·.ending = .panicked) =
    (sweep.summaries.map (·.panicked)).sum + sweep.phase.summary.panicked

/-- Joining a worker is counted at once. -/
theorem Counts.join (hcounts : sweep.Counts) {phase : SweepPhase} {registry : Registry}
    (hphase : phase.summary = sweep.phase.summary.record ending) :
    Counts { sweep.join key worker ending with registry, phase } where
  joined := by
    simp [Sweep.join, hphase, JoinSummary.record, hcounts.joined, Nat.add_assoc]
  panicked := by
    simp [Sweep.join, hphase, JoinSummary.record, hcounts.panicked, List.countP_append,
      Nat.add_assoc, List.countP_singleton]

/-- The summaries and the count under way stay in step with what was joined. -/
theorem counts_next (hcounts : sweep.Counts) (hnext : sweep.next event = some after) :
    after.Counts := by
  have hkept {registry : Registry} {phase : SweepPhase} {inserted : List (Nat × Worker)}
      (hphase : phase.summary = sweep.phase.summary) :
      Counts { sweep with registry, phase, inserted } :=
    ⟨hphase ▸ hcounts.joined, hphase ▸ hcounts.panicked⟩
  cases stepped_of_next hnext with
  | inserted worker hphase => exact hkept rfl
  | began hphase | drained hphase | looked _ _ _ hphase | noted noted hphase =>
      exact hkept (by rw [hphase]; rfl)
  | finished key ending =>
      exact hkept (by cases sweep.phase <;> rfl)
  | reaped key noted summary worker ending hphase | awaited key worker rest summary ending hphase =>
      exact hcounts.join (by rw [hphase]; rfl)
  | returned summary hphase =>
      have hsummary : sweep.phase.summary = summary := by
        rcases hphase with hphase | hphase <;> rw [hphase] <;> rfl
      obtain ⟨hjoined, hpanicked⟩ := hcounts
      rw [hsummary] at hjoined hpanicked
      refine ⟨?_, ?_⟩
      · simpa [finishCall, SweepPhase.summary, JoinSummary.zero] using hjoined
      · simpa [finishCall, SweepPhase.summary, JoinSummary.zero] using hpanicked

end Sweep

end LineLog
