import LineLog.Proofs.Registry.Undisturbed

/-!
# Who is in the registry

A worker is in the registry under one key, whatever has become of its task.  Registering a
worker adds it to those who are there, and a sweep at once takes away those whose tasks have
ended.
-/

namespace LineLog

namespace Registry

variable {registry : Registry} {worker : Worker}

theorem get?_removeAll (keys : List Nat) (registry : Registry) (key : Nat) :
    (keys.foldl (fun registry key => registry.remove key) registry).get? key =
      if key ∈ keys then none else registry.get? key := by
  induction keys generalizing registry with
  | nil => simp
  | cons first keys ih =>
      rw [List.foldl_cons, ih, get?_remove]
      by_cases hfirst : key = first
      · simp [hfirst]
      · simp [hfirst]

/-- A sweep that nobody disturbs removes the workers that have ended, key by key. -/
theorem reap_eq (registry : Registry) :
    registry.reap.1 =
      (registry.done.map (·.1)).foldl (fun registry key => registry.remove key) registry := by
  rw [List.foldl_map]
  rfl

/-- A sweep removes the workers that have ended, and no others. -/
theorem get?_reap (registry : Registry) (key : Nat) :
    registry.reap.1.get? key = if registry.isDoneAt key then none else registry.get? key := by
  rw [reap_eq, get?_removeAll, keys_done]
  cases hdone : registry.isDoneAt key with
  | false => simp [hdone]
  | true =>
      obtain ⟨worker, hworker, -⟩ := (Option.any_eq_true ..).mp hdone
      have hmem : (key, worker) ∈ registry.entries := mem_entries.mpr hworker
      rw [if_pos (List.mem_filter.mpr ⟨List.mem_map_of_mem hmem, hdone⟩), if_pos rfl]

theorem Tidy.reap (htidy : registry.Tidy) : registry.reap.1.Tidy := by
  rw [reap_eq]
  exact List.foldlRecOn _ _ htidy fun _ htidy key _ => htidy.remove key

theorem handleAt?_reap (registry : Registry) (key : Nat) :
    registry.reap.1.handleAt? key =
      if registry.isDoneAt key then none else registry.handleAt? key := by
  rw [handleAt?, get?_reap]
  split <;> rfl

theorem Tidy.handleAt?_insert (htidy : registry.Tidy) (worker : Worker) (key : Nat) :
    (registry.insert worker).1.handleAt? key =
      if key = (registry.insert worker).2 then some worker.bare else registry.handleAt? key := by
  rw [handleAt?, htidy.get?_insert]
  split <;> rfl

/-- The worker is in the registry, apart from what has become of its task. -/
def Holds (registry : Registry) (worker : Worker) : Prop :=
  ∃ key, registry.handleAt? key = some worker

/-- Registering a worker adds it and nothing else. -/
theorem Tidy.holds_insert (htidy : registry.Tidy) (worker other : Worker) :
    (registry.insert worker).1.Holds other ↔ registry.Holds other ∨ other = worker.bare := by
  have hvacant : registry.handleAt? (registry.insert worker).2 = none := by
    rw [handleAt?, htidy.get?_key]
    rfl
  simp only [Holds, htidy.handleAt?_insert]
  constructor
  · rintro ⟨key, hkey⟩
    split at hkey
    · exact .inr (Option.some.inj hkey).symm
    · exact .inl ⟨key, hkey⟩
  · rintro (⟨key, hkey⟩ | rfl)
    · have hne : key ≠ (registry.insert worker).2 := by
        rintro rfl
        cases hkey.symm.trans hvacant
      exact ⟨key, by rw [if_neg hne, hkey]⟩
    · exact ⟨_, if_pos rfl⟩

def Distinct (registry : Registry) : Prop :=
  ∀ key other first second, registry.handleAt? key = some first →
    registry.handleAt? other = some second → first.id = second.id → key = other

/-- A worker with a new number keeps the numbers different. -/
theorem Tidy.distinct_insert (htidy : registry.Tidy) (hdistinct : registry.Distinct)
    (hfresh : ∀ other, registry.Holds other → other.id ≠ worker.id) :
    (registry.insert worker).1.Distinct := by
  intro key other first second hfirst hsecond hid
  rw [htidy.handleAt?_insert] at hfirst hsecond
  split at hfirst <;> split at hsecond
  · next hkey hother => rw [hkey, hother]
  · cases hfirst
    exact absurd hid.symm (hfresh second ⟨other, hsecond⟩)
  · cases hsecond
    exact absurd hid (hfresh first ⟨key, hfirst⟩)
  · exact hdistinct key other first second hfirst hsecond hid

def HoldsDone (registry : Registry) (worker : Worker) : Prop :=
  ∃ key, registry.handleAt? key = some worker ∧ registry.isDoneAt key = true

/-- A sweep leaves exactly the workers that have not ended. -/
theorem Distinct.holds_reap (hdistinct : registry.Distinct) (worker : Worker) :
    registry.reap.1.Holds worker ↔ registry.Holds worker ∧ ¬ registry.HoldsDone worker := by
  simp only [Holds, handleAt?_reap]
  constructor
  · rintro ⟨key, hkey⟩
    split at hkey
    · cases hkey
    · next hrunning =>
      refine ⟨⟨key, hkey⟩, ?_⟩
      rintro ⟨other, hother, hdone⟩
      obtain rfl := hdistinct key other worker worker hkey hother rfl
      exact hrunning hdone
  · rintro ⟨⟨key, hkey⟩, hrunning⟩
    have hdone : ¬ registry.isDoneAt key = true := fun hdone => hrunning ⟨key, hkey, hdone⟩
    exact ⟨key, by rw [if_neg hdone, hkey]⟩

theorem Distinct.reap (hdistinct : registry.Distinct) : registry.reap.1.Distinct := by
  intro key other first second hfirst hsecond hid
  rw [handleAt?_reap] at hfirst hsecond
  obtain ⟨-, hfirst⟩ := Option.ite_none_left_eq_some.mp hfirst
  obtain ⟨-, hsecond⟩ := Option.ite_none_left_eq_some.mp hsecond
  exact hdistinct key other first second hfirst hsecond hid

end Registry

end LineLog
