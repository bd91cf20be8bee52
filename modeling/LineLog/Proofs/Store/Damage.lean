import LineLog.Proofs.Log.Damage
import LineLog.Proofs.Store.Append

/-!
# The file of a store after a failed rollback

A store over a regular file is backed until a rollback fails.  After that its file may be
longer or shorter than the memory, and be written somewhere else than at its end, but the
records that were in memory when the first rollback failed stay in front of all that, until
the store is removed.  In memory there is never anything but the records whose append
succeeded.
-/

namespace LineLog

namespace StoreStep

def failure? (step : StoreStep) : Option AppendFailure :=
  match step.call with
  | .append obstacles record =>
      match (step.before.2.appendAgainst obstacles record step.before.1).2 with
      | .ok () => none
      | .error failure => some failure
  | _ => none

def RollbackFails (step : StoreStep) : Prop :=
  ∃ cause rollback, step.failure? = some (.write cause (some rollback))

def RollsBack (step : StoreStep) : Prop :=
  ∃ cause, step.failure? = some (.write cause none)

end StoreStep

/-- A call, or a change to the host that leaves the file `id` as it is. -/
def StoreEvent.Leaves (id : Nat) : StoreEvent → Prop
  | .call _ => True
  | .change effect => ∀ host, (effect host).tree.fileContents id = host.tree.fileContents id

namespace Store

variable {id : Nat} {store : Store} {host : Host} {past : List StoreStep}

def Opens (id : Nat) (store : Store) : Prop :=
  ∃ handle, store.handle = some handle ∧ handle.opened = .file id

/-- Appending to a store over a regular file is appending to its log. -/
theorem Opens.appendAgainst (hopens : store.Opens id) (obstacles : Obstacles) (record : Bytes)
    (host : Host) :
    (store.appendAgainst obstacles record host).1.2.Opens id ∧
      (store.appendAgainst obstacles record host).1.2.log
        (store.appendAgainst obstacles record host).1.1 =
          ((store.log host).append obstacles record).1 ∧
      (store.appendAgainst obstacles record host).2 =
        ((store.log host).append obstacles record).2 := by
  obtain ⟨handle, hhandle, hregular⟩ := hopens
  have hopen : ((store.log host).append obstacles record).1.file.isSome := by
    rw [Log.isSome_file_append, log_of_handle hhandle hregular]
    rfl
  obtain ⟨file, hfile⟩ := Option.isSome_iff_exists.mp hopen
  simp only [Store.appendAgainst, hhandle, putLog, hfile, Host.putFile, hregular, and_true]
  refine ⟨⟨_, rfl, rfl⟩, ?_⟩
  simp only [log, Option.map_some, Host.fileOf, FileTree.fileContents_setContents_self]
  rw [← hfile]
  rfl

/-- A new store over a regular file has it open, and in step with its memory. -/
theorem Opens.create {path : Path} {created : Host} {handle : Handle}
    (hcreate : Store.create path host = .ok (created, store)) (hhandle : store.handle = some handle)
    (hregular : handle.opened = .file id) :
    store.Opens id ∧ (store.log created).Mirrored ∧ store.bytes = [] := by
  obtain ⟨hbacked, hempty⟩ := backed_create hcreate hhandle hregular
  exact ⟨⟨handle, hhandle, hregular⟩, hbacked.mirrored_log, hempty⟩

/-- What is left of a store over the file `id` after `steps`, while it is open. -/
structure Contained (id : Nat) (steps : List StoreStep) (store : Store) (host : Host) : Prop where
  opens : store.Opens id
  bytes_eq : store.bytes = steps.flatMap (·.added)
  mirrored : (∀ step ∈ steps, ¬ step.RollbackFails) → (store.log host).Mirrored
  keeps : ∀ earlier first later, steps = earlier ++ first :: later →
    (∀ step ∈ earlier, ¬ step.RollbackFails) → first.RollbackFails →
    (store.log host).Keeps first.before.2.bytes

namespace Contained

/-- One more call that treats the log as an append does. -/
theorem snoc (hcontained : Contained id past store host) (step : StoreStep)
    (hbefore : step.before = (host, store)) (hopens : step.after.2.Opens id)
    (hbytes : step.after.2.bytes = store.bytes ++ step.added)
    (hmirrored : ¬ step.RollbackFails → (store.log host).Mirrored →
      (step.after.2.log step.after.1).Mirrored)
    (hkeeps : ∀ front, (store.log host).Keeps front →
      (step.after.2.log step.after.1).Keeps front) :
    Contained id (past ++ [step]) step.after.2 step.after.1 where
  opens := hopens
  bytes_eq := by
    rw [hbytes, hcontained.bytes_eq, List.flatMap_append, List.flatMap_singleton]
  mirrored hnone :=
    hmirrored (hnone step (by simp))
      (hcontained.mirrored fun other hmem => hnone other (by simp [hmem]))
  keeps earlier first later hsplit hearlier hfirst := by
    rcases List.eq_nil_or_concat later with rfl | ⟨between, last, rfl⟩
    · -- the first rollback that fails is that of the last call
      obtain ⟨rfl, hlast⟩ := List.append_inj' hsplit rfl
      obtain rfl := List.singleton_inj.mp hlast
      have hwhole : (store.log host).Keeps store.bytes := (hcontained.mirrored hearlier).keeps
      rw [hbefore]
      exact hkeeps _ hwhole
    · rw [List.concat_eq_append, ← List.cons_append, ← List.append_assoc] at hsplit
      obtain ⟨rfl, -⟩ := List.append_inj' hsplit rfl
      exact hkeeps _ (hcontained.keeps earlier first between rfl hearlier hfirst)

/-- An append adds its record to the memory or does not, and what it leaves in the file stays
behind the records that were there. -/
theorem append (hcontained : Contained id past store host) (obstacles : Obstacles)
    (record : Bytes) :
    Contained id (past ++ [.ofCall (.append obstacles record) (host, store)])
      (store.call (.append obstacles record) host).1.2
      (store.call (.append obstacles record) host).1.1 := by
  obtain ⟨hopens, hlog, hresult⟩ := hcontained.opens.appendAgainst obstacles record host
  let step := StoreStep.ofCall (.append obstacles record) (host, store)
  have hfailure (failure : AppendFailure)
      (hfailed : ((store.log host).append obstacles record).2 = .error failure) :
      step.failure? = some failure := by
    simp only [step, StoreStep.failure?, StoreStep.ofCall, hresult, hfailed]
  refine hcontained.snoc step rfl hopens ?_ ?_ ?_
  · have hbytes := congrArg Log.bytes hlog
    rw [Log.bytes_append, ← hresult] at hbytes
    refine hbytes.trans (congrArg (store.bytes ++ ·) ?_)
    simp only [step, StoreStep.ofCall, StoreStep.added, Store.call]
    cases (store.appendAgainst obstacles record host).2 <;> rfl
  · intro hsucceeds hmirrored
    have hafter : ((store.log host).append obstacles record).1.Mirrored := by
      refine hmirrored.append_of_undone fun failure hfailed => ?_
      cases failure with
      | closed => rfl
      | write cause rollback =>
          cases rollback with
          | none => rfl
          | some rollback => exact absurd ⟨cause, rollback, hfailure _ hfailed⟩ hsucceeds
    rwa [← hlog] at hafter
  · intro front hkeeps
    have hkept : ((store.log host).append obstacles record).1.Keeps front :=
      hkeeps.append obstacles record
    rwa [← hlog] at hkept

/-- A call that only looks at the store. -/
theorem look (hcontained : Contained id past store host) (step : StoreStep)
    (hbefore : step.before = (host, store)) (hafter : step.after = (host, store))
    (hadded : step.added = []) :
    Contained id (past ++ [step]) step.after.2 step.after.1 := by
  refine hcontained.snoc step hbefore ?_ ?_ ?_ ?_
  · rw [hafter]
    exact hcontained.opens
  · rw [hafter, hadded]
    exact (List.append_nil _).symm
  · rw [hafter]
    exact fun _ hmirrored => hmirrored
  · rw [hafter]
    exact fun _ hkeeps => hkeeps

/-- Others who leave the file alone do no damage. -/
theorem change {change : Host → Host} (hcontained : Contained id past store host)
    (hleaves : StoreEvent.Leaves id (.change change)) :
    Contained id past store (change host) := by
  have hlog : store.log (change host) = store.log host := by
    obtain ⟨handle, hhandle, hregular⟩ := hcontained.opens
    rw [log_of_handle hhandle hregular, log_of_handle hhandle hregular, hleaves host]
  exact ⟨hcontained.opens, hcontained.bytes_eq, hlog ▸ hcontained.mirrored,
    hlog ▸ hcontained.keeps⟩

/-- A store that is open after a call was open before, and what was kept then is kept. -/
theorem call (call : StoreCall)
    (hcontained : store.handle.isSome → Contained id past store host)
    (hopen : (store.call call host).1.2.handle.isSome) :
    Contained id (past ++ [.ofCall call (host, store)]) (store.call call host).1.2
      (store.call call host).1.1 := by
  obtain ⟨hbefore, hkept⟩ := open_of_call hopen
  cases call with
  | append obstacles record => exact (hcontained hbefore).append obstacles record
  | snapshot | length => exact (hcontained hbefore).look _ rfl rfl rfl
  | remove => exact absurd rfl hkept

end Contained

/-- Around every call that leaves the store open it has been contained. -/
theorem contained_of_history {path : Path} {created : Host} {handle : Handle}
    (hcreate : create path host = .ok (created, store)) (hhandle : store.handle = some handle)
    (hregular : handle.opened = .file id) {events : List StoreEvent}
    (hleaves : ∀ event ∈ events, event.Leaves id) {future : List StoreStep} {step : StoreStep}
    (hsteps : (history events (created, store)).1 = past ++ step :: future)
    (hopen : step.after.2.handle.isSome) :
    step = .ofCall step.call step.before ∧
      Contained id past step.before.2 step.before.1 ∧
      Contained id (past ++ [step]) step.after.2 step.after.1 := by
  obtain ⟨hopens, hmirrored, hempty⟩ := Opens.create hcreate hhandle hregular
  have hstart : Contained id [] store created :=
    ⟨hopens, hempty, fun _ => hmirrored, fun earlier first later hnil => by simp at hnil⟩
  obtain ⟨hcall, hbefore, hafter⟩ := history_induction
    (fun past state => state.2.handle.isSome → Contained id past state.2 state.1)
    (fun past state change hmem hcontained hopen => (hcontained hopen).change (hleaves _ hmem))
    (fun past state call _ hcontained hopen => Contained.call call hcontained hopen)
    (fun _ => hstart) hsteps
  refine ⟨hcall, hbefore ?_, hafter hopen⟩
  rw [hcall] at hopen
  exact (open_of_call hopen).1

/-- After a rollback that succeeds the file ends, and is written next, where the memory
ends. -/
theorem Opens.end_of_rollsBack {call : StoreCall} (hopens : store.Opens id)
    (hback : (StoreStep.ofCall call (host, store)).RollsBack) :
    ((store.call call host).1.1.tree.fileContents id).length =
        (store.call call host).1.2.bytes.length ∧
      ∃ handle, (store.call call host).1.2.handle = some handle ∧ handle.opened = .file id ∧
        handle.position = (store.call call host).1.2.bytes.length := by
  obtain ⟨cause, hfailure⟩ := hback
  cases call with
  | snapshot | length | remove => cases hfailure
  | append obstacles record =>
      obtain ⟨hafter, hlog, hresult⟩ := hopens.appendAgainst obstacles record host
      obtain ⟨handle, hhandle, hregular⟩ := hafter
      have hfailed : ((store.log host).append obstacles record).2 = .error (.write cause none) := by
        rw [← hresult]
        simp only [StoreStep.failure?, StoreStep.ofCall] at hfailure
        split at hfailure
        · cases hfailure
        · next failure hfailed =>
          obtain rfl := Option.some.inj hfailure
          exact hfailed
      obtain ⟨file, hfile, hlength, hposition⟩ := Log.exists_file_of_rolledBack hfailed
      have hbytes := Log.bytes_of_append_error hfailed
      rw [← hlog, log_of_handle hhandle hregular] at hfile hbytes
      obtain rfl := Option.some.inj hfile
      have hsame : (store.appendAgainst obstacles record host).1.2.bytes = store.bytes := hbytes
      refine ⟨?_, handle, hhandle, hregular, ?_⟩
      · exact hlength.trans (congrArg List.length hsame.symm)
      · exact hposition.trans (congrArg List.length hsame.symm)

/-- In memory there is never anything but the records whose append succeeded, one after the
other.  Once a rollback has failed, the file is always at least as long as the memory was
when the first one failed, and up to that length the two are the same: the records that
were committed by then are safe from everything that follows, until the store is removed.
After every rollback that succeeds the file is as long as the memory and is written next at
its end.  The system may take the records in any pieces, fail at any point and keep the file
from being cut back or the write position from being moved any number of times; others may
do anything to the host but change the file. -/
theorem undamaged_of_history {path : Path} {created : Host} {handle : Handle}
    (hcreate : create path host = .ok (created, store)) (hhandle : store.handle = some handle)
    (hregular : handle.opened = .file id) {events : List StoreEvent}
    (hleaves : ∀ event ∈ events, event.Leaves id) {future : List StoreStep} {step : StoreStep}
    (hsteps : (history events (created, store)).1 = past ++ step :: future)
    (hopen : step.after.2.handle.isSome) :
    step.after.2.bytes = (past ++ [step]).flatMap (·.added) ∧
      (∀ earlier first later, past ++ [step] = earlier ++ first :: later →
        (∀ other ∈ earlier, ¬ other.RollbackFails) → first.RollbackFails →
          let committed := first.before.2.bytes.length
          committed ≤ (step.after.1.tree.fileContents id).length ∧
            (step.after.1.tree.fileContents id).toBytes.take committed =
              step.after.2.bytes.take committed ∧
            step.after.2.bytes.take committed = first.before.2.bytes) ∧
      (step.RollsBack →
        (step.after.1.tree.fileContents id).length = step.after.2.bytes.length ∧
          ∃ handle, step.after.2.handle = some handle ∧ handle.opened = .file id ∧
            handle.position = step.after.2.bytes.length) := by
  obtain ⟨hcall, hbefore, hafter⟩ :=
    contained_of_history hcreate hhandle hregular hleaves hsteps hopen
  refine ⟨hafter.bytes_eq, ?_, ?_⟩
  · intro earlier first later hsplit hearlier hfirst committed
    obtain ⟨last, hlast, hregular⟩ := hafter.opens
    have hkeeps := hafter.keeps earlier first later hsplit hearlier hfirst
    rw [log_of_handle hlast hregular] at hkeeps
    obtain ⟨hmemory, hfront⟩ := hkeeps
    have hcontents := (hfront _ rfl).prefix_toBytes
    have hmemory : step.after.2.bytes.take committed = first.before.2.bytes :=
      (List.prefix_iff_eq_take.mp hmemory).symm
    refine ⟨?_, ?_, hmemory⟩
    · rw [← FileContents.length_toBytes]
      exact hcontents.length_le
    · rw [hmemory]
      exact (List.prefix_iff_eq_take.mp hcontents).symm
  · intro hback
    rw [hcall] at hback ⊢
    exact hbefore.opens.end_of_rollsBack hback

section Example

/-- After the first record, an append that leaves two bytes behind because the file cannot be
cut back, one that is cut back but is then written in the wrong place, one that fails in that
place and is undone, and one that succeeds. -/
private def brokenRollbackEvents : List StoreEvent :=
  let appending (answers : List WriteAnswer) (faults : OpenFile.TruncateFaults)
      (record : Bytes) : StoreEvent :=
    .call (.append ⟨answers, fun _ => faults⟩ record)
  let failing : List WriteAnswer := [.accepted 2, .refused Os.Error.noSpace]
  [appending [] ⟨none, none⟩ [104, 105, 10],
    appending failing ⟨some Os.Error.noSpace, none⟩ [108, 111, 115, 116, 10],
    appending failing ⟨none, some Os.Error.noSpace⟩ [108, 111, 115, 116, 10],
    appending failing ⟨none, none⟩ [108, 111, 115, 116, 10],
    appending [] ⟨none, none⟩ [120, 10]]

/-- Two appends fail to be undone; all records stay in the file, and those that come after are
behind the rest. -/
theorem undamaged_of_brokenRollbackEvents :
    ∃ (created : Host) (store : Store) (handle : Handle) (past future : List StoreStep)
      (step : StoreStep),
      create [slash, 100] staleHost = .ok (created, store) ∧ store.handle = some handle ∧
        handle.opened = .file 0 ∧ (∀ event ∈ brokenRollbackEvents, event.Leaves 0) ∧
        (history brokenRollbackEvents (created, store)).1 = past ++ step :: future ∧
        step.after.2.handle.isSome ∧ step.RollsBack ∧
        (step.after.1.tree.fileContents 0).toBytes.take 3 = [104, 105, 10] ∧
        (step.after.1.tree.fileContents 0).length = 3 := by
  have hleaves : ∀ event ∈ brokenRollbackEvents, event.Leaves 0 := by
    simp [brokenRollbackEvents, StoreEvent.Leaves]
  let steps :=
    (history brokenRollbackEvents (emptiedHost, emptiedStore)).1
  have hsplit : steps = steps.take 3 ++ steps[3] :: steps.drop 4 := by
    conv_lhs => rw [← List.take_append_drop 3 steps, List.drop_eq_getElem_cons (by decide)]
  have hopen : steps[3].after.2.handle.isSome := rfl
  have hback : steps[3].RollsBack := ⟨_, rfl⟩
  obtain ⟨-, hkept, hend⟩ :=
    undamaged_of_history create_staleHost rfl rfl hleaves hsplit hopen
  have hfirst := hkept (steps.take 1) steps[1] [steps[2], steps[3]] rfl (by
    intro other hmem ⟨cause, rollback, hfailed⟩
    obtain rfl := List.mem_singleton.mp hmem
    cases hfailed) ⟨_, _, rfl⟩
  refine ⟨_, _, _, steps.take 3, steps.drop 4, steps[3], create_staleHost, rfl, rfl, hleaves,
    hsplit, hopen, hback, ?_, ?_⟩
  · exact hfirst.2.1.trans hfirst.2.2
  · exact (hend hback).1

end Example

end Store

end LineLog
