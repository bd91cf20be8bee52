import LineLog.Registry.Sweep
import Mathlib.Data.List.Nodup
import Mathlib.Data.List.Perm.Basic

/-!
# The slots of the registry

A slot is vacant or holds one worker, so the registry is known from what is found
under each key.  Registering a worker fills a vacant slot, removing one empties its
slot, and no other slot changes.
-/

namespace LineLog

namespace Worker

variable {worker : Worker}

/-- A worker that has ended stays as it is. -/
theorem finish_of_isDone (ending : Ending) (hdone : worker.isDone = true) :
    worker.finish ending = worker := by
  obtain ⟨id, peer, former⟩ := worker
  obtain ⟨former, rfl⟩ := Option.isSome_iff_exists.mp hdone
  rfl

end Worker

namespace Registry

variable {registry : Registry} {worker : Worker} {ending : Ending} {key other : Nat}

theorem lt_of_get?_eq_some (hget : registry.get? key = some worker) :
    key < registry.slots.length := by
  by_contra hle
  simp [get?, hle] at hget

/-- Setting a slot changes what is found under its key. -/
theorem getD_set {slots : List (Option Worker)} (hkey : key < slots.length)
    (slot : Option Worker) (other : Nat) :
    (slots.set key slot).getD other none = if other = key then slot else slots.getD other none := by
  rw [List.getD_eq_getElem?_getD, List.getD_eq_getElem?_getD, List.getElem?_set]
  by_cases hother : other = key
  · simp [hother, hkey]
  · simp [hother, Ne.symm hother]

/-! ## The entries -/

theorem entries_eq (registry : Registry) :
    registry.entries =
      (List.range registry.slots.length).filterMap fun key => (registry.get? key).map (key, ·) := by
  have hslots : registry.slots.zipIdx =
      (List.range registry.slots.length).map fun key => (registry.get? key, key) := by
    refine List.ext_getElem (by simp) fun key hleft hright => ?_
    have hkey : key < registry.slots.length := by simpa using hleft
    simp [get?, hkey]
  rw [entries, hslots, List.filterMap_map]
  rfl

/-- The entries are what the slots hold, each with its key. -/
theorem mem_entries {entry : Nat × Worker} :
    entry ∈ registry.entries ↔ registry.get? entry.1 = some entry.2 := by
  obtain ⟨key, worker⟩ := entry
  simp only [entries_eq, List.mem_filterMap, List.mem_range, Option.map_eq_some_iff]
  constructor
  · rintro ⟨_, -, _, hget, ⟨⟩⟩
    exact hget
  · intro hget
    exact ⟨key, lt_of_get?_eq_some hget, worker, hget, rfl⟩

/-- The keys of the entries are the slots that hold a worker, in their order. -/
theorem keys_eq (registry : Registry) :
    registry.entries.map (·.1) =
      (List.range registry.slots.length).filter fun key => (registry.get? key).isSome := by
  rw [entries_eq, List.map_filterMap, ← List.filterMap_eq_filter]
  refine List.filterMap_congr fun key _ => ?_
  cases hget : registry.get? key <;> simp [hget, Option.guard]

/-- No key occurs twice among the entries. -/
theorem nodup_keys (registry : Registry) : (registry.entries.map (·.1)).Nodup := by
  rw [keys_eq]
  exact List.nodup_range.filter _

theorem nodup_entries (registry : Registry) : registry.entries.Nodup :=
  (nodup_keys registry).of_map _

/-- A registry that holds one worker more than another one has one more entry. -/
theorem entries_perm_cons {less more : Registry} (hkey : more.get? key = some worker)
    (hvacant : less.get? key = none)
    (hothers : ∀ other, other ≠ key → more.get? other = less.get? other) :
    more.entries.Perm ((key, worker) :: less.entries) := by
  have hfresh : (key, worker) ∉ less.entries := by
    rw [mem_entries, hvacant]
    exact nofun
  refine (List.perm_ext_iff_of_nodup more.nodup_entries
    (List.nodup_cons.mpr ⟨hfresh, less.nodup_entries⟩)).mpr fun entry => ?_
  rw [List.mem_cons, mem_entries, mem_entries]
  obtain ⟨other, found⟩ := entry
  by_cases hother : other = key
  · subst hother
    simp [hkey, hvacant, eq_comm]
  · simp [hothers other hother, hother]

/-! ## Vacant slots -/

/-- The slots that are kept for use are vacant, and each of them is kept once. -/
structure Tidy (registry : Registry) : Prop where
  distinct : registry.free.Nodup
  vacant : ∀ key ∈ registry.free, key < registry.slots.length ∧ registry.get? key = none

theorem tidy_empty : empty.Tidy where
  distinct := .nil
  vacant := nofun

/-- A worker is registered under a key that no other worker has. -/
theorem Tidy.get?_key (htidy : registry.Tidy) (worker : Worker) :
    registry.get? (registry.insert worker).2 = none := by
  unfold insert
  split
  · next key free hfree => exact (htidy.vacant key (by rw [hfree]; exact List.mem_cons_self)).2
  · simp [get?]

/-- A new worker is found under its new key, and the others are found where they were. -/
theorem Tidy.get?_insert (htidy : registry.Tidy) (worker : Worker) (key : Nat) :
    (registry.insert worker).1.get? key =
      if key = (registry.insert worker).2 then some worker else registry.get? key := by
  unfold insert
  split
  · next used free hfree =>
    exact getD_set (htidy.vacant used (by rw [hfree]; exact List.mem_cons_self)).1 _ key
  · simp only [get?, List.getD_eq_getElem?_getD]
    rcases Nat.lt_trichotomy key registry.slots.length with hlt | rfl | hgt
    · rw [List.getElem?_append_left hlt, if_neg (Nat.ne_of_lt hlt)]
    · simp
    · rw [if_neg (Nat.ne_of_gt hgt), List.getElem?_eq_none (Nat.le_of_lt hgt),
        List.getElem?_eq_none (by simpa using Nat.succ_le_of_lt hgt)]

theorem get?_remove (registry : Registry) (key other : Nat) :
    (registry.remove key).get? other = if other = key then none else registry.get? other := by
  unfold remove
  split
  · next hvacant =>
    by_cases hother : other = key
    · simp [hother, hvacant]
    · simp [hother]
  · next worker hworker => exact getD_set (lt_of_get?_eq_some hworker) none other

/-- The end of a task is noted in its slot, and nowhere else. -/
theorem get?_finish (registry : Registry) (key : Nat) (ending : Ending) (other : Nat) :
    (registry.finish key ending).get? other =
      if other = key then (registry.get? other).map (·.finish ending) else registry.get? other := by
  unfold finish
  split
  · next hvacant =>
    by_cases hother : other = key
    · simp [hother, hvacant]
    · simp [hother]
  · next worker hworker =>
    refine (getD_set (lt_of_get?_eq_some hworker) _ other).trans ?_
    by_cases hother : other = key
    · simp [hother, hworker]
    · simp [hother, get?]

/-- Taking a slot for use, or adding one, leaves the others tidy. -/
theorem Tidy.insert (htidy : registry.Tidy) (worker : Worker) :
    (registry.insert worker).1.Tidy := by
  have hget (key : Nat) := htidy.get?_insert worker key
  unfold Registry.insert at hget ⊢
  split
  · next used free hfree =>
    simp only [hfree] at hget
    have hdistinct : (used :: free).Nodup := hfree ▸ htidy.distinct
    refine ⟨(List.nodup_cons.mp hdistinct).2, fun key hmem => ?_⟩
    obtain ⟨hlt, hvacant⟩ := htidy.vacant key (by rw [hfree]; exact List.mem_cons_of_mem used hmem)
    have hne : key ≠ used := fun heq => (List.nodup_cons.mp hdistinct).1 (heq ▸ hmem)
    refine ⟨by simpa using hlt, ?_⟩
    rw [hget key, if_neg hne]
    exact hvacant
  · exact ⟨.nil, nofun⟩

/-- A slot that is given up is kept for use, once. -/
theorem Tidy.remove (htidy : registry.Tidy) (key : Nat) : (registry.remove key).Tidy := by
  have hget (other : Nat) := get?_remove registry key other
  unfold Registry.remove at hget ⊢
  split
  · exact htidy
  · next worker hworker =>
    simp only [hworker] at hget
    refine ⟨List.nodup_cons.mpr ⟨fun hmem => ?_, htidy.distinct⟩, fun other hmem => ?_⟩
    · exact absurd ((htidy.vacant key hmem).2.symm.trans hworker) nofun
    · rcases List.mem_cons.mp hmem with rfl | hmem
      · exact ⟨by simpa using lt_of_get?_eq_some hworker, by simpa using hget other⟩
      · obtain ⟨hlt, hvacant⟩ := htidy.vacant other hmem
        refine ⟨by simpa using hlt, ?_⟩
        rw [hget other, hvacant]
        exact ite_self none

theorem Tidy.finish (htidy : registry.Tidy) (key : Nat) (ending : Ending) :
    (registry.finish key ending).Tidy := by
  have hget (other : Nat) := get?_finish registry key ending other
  unfold Registry.finish at hget ⊢
  split
  · exact htidy
  · next worker hworker =>
    simp only [hworker] at hget
    refine ⟨htidy.distinct, fun other hmem => ?_⟩
    obtain ⟨hlt, hvacant⟩ := htidy.vacant other hmem
    refine ⟨by simpa using hlt, ?_⟩
    rw [hget other, hvacant]
    exact ite_self none

/-! ## What the operations make of the entries -/

/-- Registering a worker adds one entry. -/
theorem Tidy.entries_insert (htidy : registry.Tidy) (worker : Worker) :
    (registry.insert worker).1.entries.Perm
      (((registry.insert worker).2, worker) :: registry.entries) := by
  refine entries_perm_cons ?_ (htidy.get?_key worker) fun other hother => ?_
  · rw [htidy.get?_insert, if_pos rfl]
  · rw [htidy.get?_insert, if_neg hother]

/-- Removing a worker takes away one entry. -/
theorem entries_remove (hget : registry.get? key = some worker) :
    registry.entries.Perm ((key, worker) :: (registry.remove key).entries) := by
  refine entries_perm_cons hget ?_ fun other hother => ?_
  · rw [get?_remove, if_pos rfl]
  · rw [get?_remove, if_neg hother]

theorem length_finish (registry : Registry) (key : Nat) (ending : Ending) :
    (registry.finish key ending).slots.length = registry.slots.length := by
  unfold Registry.finish
  split
  · rfl
  · exact List.length_set

/-- The end of a task leaves every entry in its place. -/
theorem entries_finish (registry : Registry) (key : Nat) (ending : Ending) :
    (registry.finish key ending).entries =
      registry.entries.map (SweepPhase.finishEntry key ending) := by
  rw [entries_eq, entries_eq, length_finish, List.map_filterMap]
  refine List.filterMap_congr fun other _ => ?_
  rw [get?_finish]
  by_cases hother : other = key
  · simp [hother, Function.comp_def, SweepPhase.finishEntry]
  · simp [hother, Function.comp_def, SweepPhase.finishEntry]

end Registry

end LineLog
