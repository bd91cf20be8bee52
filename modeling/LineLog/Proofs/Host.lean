import LineLog.Proofs.Run
import LineLog.Store.Basic

/-!
# Deleting a file

A deletion that succeeds takes away the entry that the path names, and no other.  One that
fails changes nothing.  A store tries to delete its file when it is removed, and only while
it is open.
-/

namespace LineLog

namespace FileTree

variable {tree : FileTree} {location other : Location}

theorem node?_erase_self (hbelow : location ≠ []) :
    (tree.erase location).node? location = none := by
  simp only [node?, erase, if_neg hbelow]
  rw [List.lookup_eq_none_iff]
  intro entry hentry
  have hkept : entry.1 ≠ location := of_decide_eq_true (List.mem_filter.mp hentry).2
  exact bne_iff_ne.mpr (Ne.symm hkept)

theorem node?_erase_of_ne (hother : other ≠ location) :
    (tree.erase location).node? other = tree.node? other := by
  simp only [node?, erase]
  split
  · rfl
  · induction tree.nodes with
    | nil => rfl
    | cons entry nodes ih =>
        obtain ⟨place, node⟩ := entry
        by_cases hkept : place = location
        · have hpassed : (other == place) = false := by
            rw [hkept]
            exact beq_eq_false_iff_ne.mpr hother
          rw [List.filter_cons_of_neg (by simpa using hkept), ih, List.lookup_cons, hpassed]
        · rw [List.filter_cons_of_pos (by simpa using hkept), List.lookup_cons, List.lookup_cons,
            ih]

end FileTree

namespace Host

variable {path : Path} {host after : Host}

/-- The first descriptor of a process that has none has the number zero. -/
theorem takeDescriptor_of_none (hnone : host.descriptors = .none) :
    host.takeDescriptor = .ok (0, { host with descriptors := ⟨[0], none⟩ }) := by
  simp [takeDescriptor, hnone, Descriptors.take?, Descriptors.lowest, Descriptors.freeBehind,
    Descriptors.none]

/-- The entry that the path names is gone, and no other. -/
def Deleted (path : Path) (host after : Host) : Prop :=
  ∃ place node, host.entryAt path = .ok (some (place, some node)) ∧ node ≠ .directory ∧
    after.tree.node? place.location = none ∧
    ∀ other, other ≠ place.location → after.tree.node? other = host.tree.node? other

theorem deleted_of_deleteFile (hdelete : host.deleteFile path = .ok after) :
    host.Deleted path after := by
  obtain ⟨entry, hentry, hrest⟩ := exists_of_bind_eq_ok hdelete
  split at hrest
  · cases hrest
  · cases hrest
  · cases hrest
  · next place node hnode =>
    split at hrest
    · cases hrest
    · obtain rfl := Except.ok.inj hrest
      have hbelow : place.location ≠ [] := List.append_ne_nil_of_right_ne_nil _ (by simp)
      refine ⟨place, node, hentry, ?_, FileTree.node?_erase_self hbelow, ?_⟩
      · rintro rfl
        exact hnode rfl
      · exact fun other hother => FileTree.node?_erase_of_ne hother

end Host

namespace Store

/-- The store is as open as before, at the same path, and nothing more was tried to be
deleted. -/
structure Remains (store after : Store) : Prop where
  isSome_handle : after.handle.isSome = store.handle.isSome
  path_eq : after.path = store.path
  deletions_eq : after.deletions = store.deletions

theorem Remains.refl (store : Store) : store.Remains store where
  isSome_handle := rfl
  path_eq := rfl
  deletions_eq := rfl

theorem remains_putLog {store : Store} {handle : Handle} (hopen : store.handle = some handle)
    (log : Log) (host : Host) : store.Remains (store.putLog handle log host).2 := by
  unfold putLog
  split
  · exact ⟨rfl, rfl, rfl⟩
  · exact ⟨by rw [hopen]; rfl, rfl, rfl⟩

variable (store : Store) (host : Host)

/-- What a removal does: it closes an open store and tries to delete its file, once. -/
inductive Removed :
    (Host × Store) × Except StoreError Unit → Prop where
  | again (hclosed : store.handle = none) : Removed ((host, store), .ok ())
  | deleted (handle : Handle) (after : Host) (hopen : store.handle = some handle)
      (hdeleted : host.Deleted store.path after) :
      Removed ((after, store.shut), .ok ())
  | kept (handle : Handle) (after : Host) (cause : Os.Error) (hopen : store.handle = some handle)
      (htree : after.tree = host.tree) :
      Removed ((after, store.shut), .error (.remove store.path cause))

theorem removed_remove : Removed store host (store.remove host) := by
  unfold remove
  split
  · next hclosed => exact .again hclosed
  · next handle hopen =>
    dsimp only
    split
    · next after hdelete =>
      have hdeleted : (host.close handle).Deleted store.path after :=
        Host.deleted_of_deleteFile hdelete
      exact .deleted handle after hopen hdeleted
    · next cause hdelete => exact .kept handle _ cause hopen rfl

end Store

end LineLog
