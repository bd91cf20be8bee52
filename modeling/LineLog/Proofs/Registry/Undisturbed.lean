import LineLog.Proofs.Registry.Calls

/-!
# Calls that no task disturbs

When no task ends during a call, the steps of the call together do to the registry what
`Registry.reap` and `Registry.joinAll` say at once, and return the same summary.
-/

namespace LineLog

namespace Registry

variable {registry : Registry}

/-- The workers that reaping removes are those whose flag is set. -/
theorem keys_done (registry : Registry) :
    registry.done.map (·.1) = (registry.entries.map (·.1)).filter registry.isDoneAt := by
  rw [done, List.map_filterMap, List.filter_map, ← List.filterMap_eq_filter, List.map_filterMap]
  refine List.filterMap_congr fun entry hentry => ?_
  have hget : registry.get? entry.1 = some entry.2 := mem_entries.mp hentry
  cases hending : entry.2.ending <;> simp [Option.guard, isDoneAt, hget, hending, Worker.isDone]

theorem exists_of_mem_done {entry : Nat × Ending} (hentry : entry ∈ registry.done) :
    ∃ worker, registry.get? entry.1 = some worker ∧ worker.ending = some entry.2 := by
  obtain ⟨⟨key, worker⟩, hmem, hentry⟩ := List.mem_filterMap.mp hentry
  obtain ⟨ending, hending, rfl⟩ := Option.map_eq_some_iff.mp hentry
  exact ⟨worker, mem_entries.mp hmem, hending⟩

end Registry

namespace Sweep

variable {sweep : Sweep}

/-- A sweep in which no task ends notes the workers that have ended. -/
theorem run_looking (sweep : Sweep) (unseen noted : List Nat)
    (hphase : sweep.phase = .looking unseen noted) :
    sweep.run (List.replicate (unseen.length + 1) .step) =
      some { sweep with
        phase := .reaping (noted ++ unseen.filter sweep.registry.isDoneAt) .zero } := by
  induction unseen generalizing sweep noted with
  | nil => simp [run, next, step, hphase]
  | cons key unseen ih =>
      have hnext : sweep.next .step = some { sweep with
          phase := .looking unseen
            (if sweep.registry.isDoneAt key then noted ++ [key] else noted) } := by
        simp only [next, step, hphase]
        rfl
      rw [List.length_cons, run_replicate_succ hnext, ih _ _ rfl]
      cases hflag : sweep.registry.isDoneAt key <;> simp [hflag]

/-- The workers that were noted are removed and joined one after the other. -/
theorem run_removing (sweep : Sweep) (done : List (Nat × Ending)) (summary : JoinSummary)
    (hphase : sweep.phase = .reaping (done.map (·.1)) summary)
    (hdone : ∀ entry ∈ done, ∃ worker, sweep.registry.get? entry.1 = some worker ∧
      worker.ending = some entry.2) (hnodup : (done.map (·.1)).Nodup) :
    ∃ final, sweep.run (List.replicate (done.length + 1) .step) = some final ∧
      final.phase = .idle ∧
      final.registry = done.foldl (fun registry (key, _) => registry.remove key) sweep.registry ∧
      final.summaries = sweep.summaries ++
        [(done.map (·.2)).foldl (fun summary ending => summary.record ending) summary] := by
  induction done generalizing sweep summary with
  | nil => exact ⟨sweep.finishCall summary, by simp [run, next, step, hphase], rfl, rfl, rfl⟩
  | cons entry done ih =>
      obtain ⟨key, ending⟩ := entry
      obtain ⟨⟨worker, hworker, hending⟩, hrest⟩ := List.forall_mem_cons.mp hdone
      obtain ⟨hfresh, hnodup⟩ := List.nodup_cons.mp hnodup
      have hnext : sweep.next .step = some { sweep.join key worker ending with
          registry := sweep.registry.remove key
          phase := .reaping (done.map (·.1)) (summary.record ending) } := by
        simp [next, step, hphase, hworker, hending]
      rw [List.length_cons, run_replicate_succ hnext]
      refine ih _ _ rfl (fun other hother => ?_) hnodup
      have hmem : other.1 ∈ done.map (·.1) := List.mem_map_of_mem hother
      have hne : other.1 ≠ key := fun heq => hfresh (heq ▸ hmem)
      obtain ⟨found, hfound, hended⟩ := hrest other hother
      exact ⟨found, by rw [Registry.get?_remove, if_neg hne]; exact hfound, hended⟩

/-- A sweep that no task disturbs does to the registry what reaping does at once. -/
theorem run_reap (hphase : sweep.phase = .idle) :
    ∃ count final, sweep.run (.reap :: List.replicate count .step) = some final ∧
      final.phase = .idle ∧ final.registry = sweep.registry.reap.1 ∧
      final.summaries = sweep.summaries ++ [sweep.registry.reap.2] := by
  have hbegun : sweep.next .reap = some sweep.reaping := if_pos hphase
  have hnodup : (sweep.registry.done.map (·.1)).Nodup := by
    rw [Registry.keys_done]
    exact sweep.registry.nodup_keys.filter _
  have hlooking := run_looking sweep.reaping (sweep.registry.entries.map (·.1)) [] rfl
  obtain ⟨final, hremoving, hidle, hregistry, hsummaries⟩ :=
    run_removing { sweep with phase := .reaping (sweep.registry.done.map (·.1)) .zero }
      sweep.registry.done .zero rfl (fun _ => Registry.exists_of_mem_done) hnodup
  refine ⟨(sweep.registry.entries.map (·.1)).length + 1 + (sweep.registry.done.length + 1), final,
    ?_, hidle, hregistry, hsummaries⟩
  rw [run, List.foldlM_cons, hbegun, ← List.replicate_append_replicate]
  refine foldlM_append_eq_some_iff.mpr ⟨_, hlooking, ?_⟩
  rw [Registry.keys_done] at hremoving
  exact hremoving

/-- Joining all when no task is running any more does what joining at once does. -/
theorem run_joining (sweep : Sweep) (rest : List (Nat × Worker)) (summary : JoinSummary)
    (later : Worker → Ending) (hphase : sweep.phase = .joining rest summary)
    (hended : ∀ entry ∈ rest, entry.2.isDone = true) :
    ∃ final, sweep.run (List.replicate (rest.length + 1) .step) = some final ∧
      final.phase = .idle ∧ final.registry = sweep.registry ∧
      final.summaries = sweep.summaries ++
        [(rest.map fun (_, worker) => worker.ending.getD (later worker)).foldl
          (fun summary ending => summary.record ending) summary] := by
  induction rest generalizing sweep summary with
  | nil => exact ⟨sweep.finishCall summary, by simp [run, next, step, hphase], rfl, rfl, rfl⟩
  | cons entry rest ih =>
      obtain ⟨key, worker⟩ := entry
      obtain ⟨hdone, hrest⟩ := List.forall_mem_cons.mp hended
      obtain ⟨ending, hending⟩ : ∃ ending, worker.ending = some ending :=
        Option.isSome_iff_exists.mp hdone
      have hnext : sweep.next .step = some { sweep.join key worker ending with
          phase := .joining rest (summary.record ending) } := by
        simp [next, step, hphase, hending]
      rw [List.length_cons, run_replicate_succ hnext]
      obtain ⟨final, hrun, hidle, hregistry, hsummaries⟩ := ih { sweep.join key worker ending with
        phase := .joining rest (summary.record ending) } (summary.record ending) rfl hrest
      refine ⟨final, hrun, hidle, hregistry, hsummaries.trans ?_⟩
      simp [Sweep.join, hending]

/-- When every task has ended, the joining of all by single steps comes to what joining all at
once does. -/
theorem run_joinAll (later : Worker → Ending) (hphase : sweep.phase = .idle)
    (hended : ∀ entry ∈ sweep.registry.entries, entry.2.isDone = true) :
    ∃ count final, sweep.run (.joinAll :: List.replicate count .step) = some final ∧
      final.phase = .idle ∧ final.registry = (sweep.registry.joinAll later).1 ∧
      final.summaries = sweep.summaries ++ [(sweep.registry.joinAll later).2] := by
  have hbegun : sweep.next .joinAll = some sweep.joining := if_pos hphase
  obtain ⟨final, hrun, hidle, hregistry, hsummaries⟩ :=
    run_joining sweep.joining sweep.registry.entries .zero later rfl hended
  refine ⟨sweep.registry.entries.length + 1, final, ?_, hidle, hregistry, hsummaries⟩
  rw [run, List.foldlM_cons, hbegun]
  exact hrun

end Sweep

end LineLog
