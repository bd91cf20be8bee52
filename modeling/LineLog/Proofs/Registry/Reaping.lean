import LineLog.Proofs.Registry.Conservation

/-!
# Reaping against tasks that end

A sweep looks at the flag of each worker once, at a moment of its own, and removes those
whose flag was set then.  A flag that is set stays set, so a sweep never waits for a
task, however many end between its steps.
-/

namespace LineLog

namespace Registry

variable {registry : Registry} {key : Nat}

def isDoneAt (registry : Registry) (key : Nat) : Bool :=
  (registry.get? key).any (·.isDone)

/-- A completion flag that is set stays set. -/
theorem isDoneAt_finish {done : Nat} (key : Nat) (ending : Ending)
    (hdone : registry.isDoneAt done = true) :
    (registry.finish key ending).isDoneAt done = true := by
  rw [isDoneAt, get?_finish]
  split
  · rw [isDoneAt, Option.any_eq_true] at hdone
    obtain ⟨worker, hworker, -⟩ := hdone
    rw [hworker]
    rfl
  · exact hdone

theorem isDoneAt_remove {done : Nat} (hne : done ≠ key) (hdone : registry.isDoneAt done = true) :
    (registry.remove key).isDoneAt done = true := by
  rw [isDoneAt, get?_remove, if_neg hne]
  exact hdone

def handleAt? (registry : Registry) (key : Nat) : Option Worker :=
  (registry.get? key).map Worker.bare

theorem handleAt?_finish (registry : Registry) (key : Nat) (ending : Ending) (other : Nat) :
    (registry.finish key ending).handleAt? other = registry.handleAt? other := by
  rw [handleAt?, get?_finish]
  split
  · rw [Option.map_map]
    rfl
  · rfl

theorem handleAt?_remove {other : Nat} (hother : other ≠ key) :
    (registry.remove key).handleAt? other = registry.handleAt? other := by
  rw [handleAt?, get?_remove, if_neg hother]
  rfl

end Registry

namespace Sweep

variable {sweep after : Sweep} {events : List SweepEvent} {event : SweepEvent}

/-! ## A call that can go on -/

/-- Every worker that a sweep has noted has ended and is still in its slot. -/
def Ready (sweep : Sweep) : Prop :=
  match sweep.phase with
  | .looking unseen noted =>
      (noted ++ unseen).Nodup ∧ ∀ key ∈ noted, sweep.registry.isDoneAt key = true
  | .reaping noted _ => noted.Nodup ∧ ∀ key ∈ noted, sweep.registry.isDoneAt key = true
  | .idle | .joining _ _ => True

/-- A worker that a sweep has noted stays where it is until the sweep removes it. -/
theorem ready_next (hready : sweep.Ready) (hnext : sweep.next event = some after) :
    after.Ready := by
  unfold Ready at hready
  cases stepped_of_next hnext with
  | inserted worker hphase => simp [Ready, hphase]
  | began hphase => exact ⟨Registry.nodup_keys _, nofun⟩
  | drained | awaited | returned => trivial
  | finished key ending =>
      cases hphase : sweep.phase with
      | idle => simp [Ready, finish, hphase, SweepPhase.finish]
      | joining => simp [Ready, finish, hphase, SweepPhase.finish]
      | looking unseen noted =>
          rw [hphase] at hready
          simp only [Ready, finish, hphase, SweepPhase.finish]
          exact ⟨hready.1, fun done hdone =>
            Registry.isDoneAt_finish key ending (hready.2 done hdone)⟩
      | reaping noted summary =>
          rw [hphase] at hready
          simp only [Ready, finish, hphase, SweepPhase.finish]
          exact ⟨hready.1, fun done hdone =>
            Registry.isDoneAt_finish key ending (hready.2 done hdone)⟩
  | looked key unseen noted hphase =>
      rw [hphase] at hready
      obtain ⟨hnodup, hdone⟩ := hready
      by_cases hflag : (sweep.registry.get? key).any (·.isDone) = true
      · simp only [Ready, if_pos hflag, List.append_assoc]
        refine ⟨hnodup, fun other hother => ?_⟩
        rcases List.mem_append.mp hother with hother | hother
        · exact hdone other hother
        · rw [List.mem_singleton.mp hother]
          exact hflag
      · simp only [Ready, if_neg hflag]
        exact ⟨hnodup.sublist ((List.sublist_cons_self key unseen).append_left noted), hdone⟩
  | noted noted hphase =>
      rw [hphase] at hready
      exact ⟨List.append_nil noted ▸ hready.1, hready.2⟩
  | reaped key noted summary worker ending hphase =>
      rw [hphase] at hready
      obtain ⟨hnodup, hdone⟩ := hready
      obtain ⟨hfresh, hnodup⟩ := List.nodup_cons.mp hnodup
      refine ⟨hnodup, fun other hother => ?_⟩
      exact Registry.isDoneAt_remove (fun heq => hfresh (heq ▸ hother))
        (hdone other (List.mem_cons_of_mem key hother))

/-- The call under way returns by its own steps, whatever the tasks do. -/
def Returns (sweep : Sweep) : Prop :=
  ∃ count final, sweep.run (List.replicate count .step) = some final ∧ final.phase = .idle

theorem run_replicate_succ (hnext : sweep.next .step = some after) (count : Nat) :
    sweep.run (List.replicate (count + 1) .step) = after.run (List.replicate count .step) := by
  rw [List.replicate_succ, run, List.foldlM_cons, hnext]
  rfl

/-- A call returns if it does so after one more step. -/
theorem Returns.of_step (hnext : sweep.next .step = some after) (hreturns : after.Returns) :
    sweep.Returns := by
  obtain ⟨count, final, hrun, hidle⟩ := hreturns
  exact ⟨count + 1, final, (run_replicate_succ hnext count).trans hrun, hidle⟩

theorem returns_of_idle (hphase : sweep.phase = .idle) : sweep.Returns :=
  ⟨0, sweep, rfl, hphase⟩

/-- A sweep that has looked at all workers joins the noted ones and returns. -/
theorem returns_of_reaping {noted : List Nat} {summary : JoinSummary} (hready : sweep.Ready)
    (hphase : sweep.phase = .reaping noted summary) : sweep.Returns := by
  induction noted generalizing sweep summary with
  | nil =>
      have hnext : sweep.next .step = some (sweep.finishCall summary) := by
        simp [next, step, hphase]
      exact .of_step hnext (returns_of_idle rfl)
  | cons key noted ih =>
      have hdone : sweep.registry.isDoneAt key = true := by
        rw [Ready, hphase] at hready
        exact hready.2 key List.mem_cons_self
      obtain ⟨worker, hworker, hisDone⟩ := Option.any_eq_true _ _ |>.mp hdone
      obtain ⟨ending, hending⟩ := Option.isSome_iff_exists.mp hisDone
      have hnext : ∃ following, sweep.next .step = some following ∧
          following.phase = .reaping noted (summary.record ending) := by
        simp [next, step, hphase, hworker, hending]
      obtain ⟨following, hnext, hfollowing⟩ := hnext
      exact .of_step hnext (ih (ready_next hready hnext) hfollowing)

/-- A sweep looks at one worker after the other and comes to an end. -/
theorem returns_of_looking {unseen noted : List Nat} (hready : sweep.Ready)
    (hphase : sweep.phase = .looking unseen noted) : sweep.Returns := by
  induction unseen generalizing sweep noted with
  | nil =>
      have hnext : sweep.next .step = some { sweep with phase := .reaping noted .zero } := by
        simp [next, step, hphase]
      exact .of_step hnext (returns_of_reaping (ready_next hready hnext) rfl)
  | cons key unseen ih =>
      have hnext : ∃ following noted, sweep.next .step = some following ∧
          following.phase = .looking unseen noted := by
        simp [next, step, hphase]
      obtain ⟨following, noted, hnext, hfollowing⟩ := hnext
      exact .of_step hnext (ih (ready_next hready hnext) hfollowing)

/-- Joining waits for the tasks that are still running, and for nothing else. -/
theorem returns_of_joining {rest : List (Nat × Worker)} {summary : JoinSummary}
    (hphase : sweep.phase = .joining rest summary)
    (hended : ∀ entry ∈ rest, entry.2.isDone = true) : sweep.Returns := by
  induction rest generalizing sweep summary with
  | nil =>
      have hnext : sweep.next .step = some (sweep.finishCall summary) := by
        simp [next, step, hphase]
      exact .of_step hnext (returns_of_idle rfl)
  | cons entry rest ih =>
      obtain ⟨hdone, hrest⟩ := List.forall_mem_cons.mp hended
      obtain ⟨ending, hending⟩ := Option.isSome_iff_exists.mp hdone
      have hnext : ∃ following, sweep.next .step = some following ∧
          following.phase = .joining rest (summary.record ending) := by
        simp [next, step, hphase, hending]
      obtain ⟨following, hnext, hfollowing⟩ := hnext
      exact .of_step hnext (ih hfollowing hrest)

/-- A sweep always returns; joining does when the tasks it waits for have ended. -/
theorem returns_of_ready (hready : sweep.Ready)
    (hended : ∀ entry ∈ sweep.phase.pending, entry.2.isDone = true) : sweep.Returns := by
  cases hphase : sweep.phase with
  | idle => exact returns_of_idle hphase
  | looking unseen noted => exact returns_of_looking hready hphase
  | reaping noted summary => exact returns_of_reaping hready hphase
  | joining rest summary =>
      rw [hphase] at hended
      exact returns_of_joining hphase hended

end Sweep

end LineLog
