import LineLog.Proofs.Host
import LineLog.Proofs.Log.Append
import LineLog.Proofs.Store.Append

/-!
# A store closes once

The first removal closes a store, whether its file can be deleted or not, and it alone tries
to delete the file.  Nothing opens the store again: every later call is refused or finds
nothing, and leaves the store and the host as they are, whatever others have done to the
host in the meantime.
-/

namespace LineLog

def StoreCall.refusal : StoreCall → StoreReply
  | .append _ _ => .appended (.error .closed)
  | .snapshot => .bytes []
  | .length => .count 0
  | .remove => .removed (.ok ())

namespace Store

variable {store : Store} {host : Host} {handle : Handle}

/-- The store has no file any more, and no records. -/
structure Closed (store : Store) : Prop where
  handle_eq : store.handle = none
  bytes_eq : store.bytes = []

/-- A closed store answers without touching anything. -/
theorem Closed.call_eq (hclosed : store.Closed) (call : StoreCall) (host : Host) :
    store.call call host = ((host, store), call.refusal) := by
  cases call with
  | append obstacles record =>
      simp only [call, appendAgainst, hclosed.handle_eq]
      rfl
  | snapshot => simp only [call, snapshot, hclosed.bytes_eq, StoreCall.refusal]
  | length => simp only [call, length, hclosed.bytes_eq, StoreCall.refusal, List.length_nil]
  | remove => simp only [call, remove, hclosed.handle_eq, StoreCall.refusal]

/-! ## Calls on an open store -/

/-- What becomes of the host when an open store is removed: the deletion of its file. -/
def deletion (handle : Handle) (store : Store) (host : Host) : Except Os.Error Host :=
  (host.close handle).deleteFile store.path

inductive Shuts (handle : Handle) (store : Store) (host : Host) :
    (Host × Store) × Except StoreError Unit → Prop where
  | deleted (after : Host) (hdeletion : store.deletion handle host = .ok after) :
      Shuts handle store host ((after, store.shut), .ok ())
  | kept (cause : Os.Error) (hdeletion : store.deletion handle host = .error cause) :
      Shuts handle store host
        ((host.close handle, store.shut), .error (.remove store.path cause))

/-- An open store is closed by its removal, whether or not the file can be deleted. -/
theorem shuts_remove (host : Host) (hopen : store.handle = some handle) :
    Shuts handle store host (store.remove host) := by
  simp only [remove, hopen]
  split
  · next after hdeletion => exact .deleted after hdeletion
  · next cause hdeletion => exact .kept cause hdeletion

theorem Shuts.store_eq {outcome : (Host × Store) × Except StoreError Unit}
    (hshuts : Shuts handle store host outcome) : outcome.1.2 = store.shut := by
  cases hshuts with
  | deleted | kept => rfl

/-- A store that was shut takes no records and shows none. -/
theorem closed_shut (store : Store) : store.shut.Closed where
  handle_eq := rfl
  bytes_eq := rfl

/-- An append leaves an open store open and its file in its place. -/
theorem open_appendAgainst (obstacles : Obstacles) (record : Bytes) (host : Host)
    (hopen : store.handle = some handle) :
    store.Remains (store.appendAgainst obstacles record host).1.2 ∧
      (store.appendAgainst obstacles record host).1.1.tree.nodes = host.tree.nodes ∧
      (store.appendAgainst obstacles record host).2 ≠ .error .closed := by
  have hfile : (store.log host).file ≠ none := by
    simp [log, hopen]
  have hresult := mt (Log.append_eq_closed_iff obstacles record (store.log host)).mp hfile
  have hremains := remains_putLog hopen ((store.log host).append obstacles record).1 host
  simp only [appendAgainst, hopen]
  refine ⟨hremains, ?_, hresult⟩
  simp only [putLog]
  split
  · rfl
  · unfold Host.putFile
    split <;> rfl

/-- A call that does not remove an open store. -/
theorem open_call {call : StoreCall} (host : Host) (hopen : store.handle = some handle)
    (hcall : call ≠ .remove) :
    store.Remains (store.call call host).1.2 ∧
      (store.call call host).1.1.tree.nodes = host.tree.nodes ∧
      (store.call call host).2 ≠ .appended (.error .closed) := by
  cases call with
  | append obstacles record =>
      obtain ⟨hremains, hnodes, hresult⟩ := open_appendAgainst obstacles record host hopen
      refine ⟨hremains, hnodes, fun hreply => hresult ?_⟩
      simp only [call, StoreReply.appended.injEq] at hreply
      generalize (store.appendAgainst obstacles record host).2 = result at hreply ⊢
      rcases result with (_ | ⟨cause, rollback⟩) | _
      · rfl
      · cases hreply
      · cases hreply
  | snapshot | length => exact ⟨.refl store, rfl, by simp [call]⟩
  | remove => exact absurd rfl hcall

/-- What a call makes of a store that keeps no records once it is closed. -/
theorem call_spec (hempty : store.handle = none → store.bytes = []) (call : StoreCall)
    (host : Host) :
    ((store.call call host).1.2.handle = none → (store.call call host).1.2.bytes = []) ∧
      (store.call call host).1.2.path = store.path ∧
      ((store.call call host).1.2.handle = none ↔ store.handle = none ∨ call = .remove) := by
  cases hhandle : store.handle with
  | none =>
      have hclosed : store.Closed := ⟨hhandle, hempty hhandle⟩
      rw [hclosed.call_eq]
      exact ⟨hempty, rfl, iff_of_true hhandle (.inl rfl)⟩
  | some handle =>
      by_cases hcall : call = .remove
      · subst hcall
        have hshut : (store.call .remove host).1.2 = store.shut :=
          (shuts_remove host hhandle).store_eq
        rw [hshut]
        exact ⟨fun _ => rfl, rfl, iff_of_true rfl (.inr rfl)⟩
      · obtain ⟨hremains, -, -⟩ := open_call host hhandle hcall
        have hstill : (store.call call host).1.2.handle ≠ none := by
          rw [← Option.isSome_iff_ne_none, hremains.isSome_handle, hhandle]
          rfl
        exact ⟨fun hnone => absurd hnone hstill, hremains.path_eq,
          iff_of_false hstill (by simp [hcall])⟩

/-! ## The life of a store -/

/-- What is left of `origin` after the calls `past`. -/
structure Lived (origin : Store) (past : List StoreStep) (store : Store) : Prop where
  path_eq : store.path = origin.path
  opened : (∀ step ∈ past, step.call ≠ .remove) →
    store.handle.isSome ∧ store.deletions = origin.deletions
  closed : (∃ step ∈ past, step.call = .remove) →
    store.Closed ∧ store.deletions = origin.deletions ++ [origin.path]

theorem lived_nil (hopen : store.handle.isSome) : Lived store [] store where
  path_eq := rfl
  opened _ := ⟨hopen, rfl⟩
  closed := by simp

namespace Lived

variable {origin : Store} {past : List StoreStep}

/-- A closed store stays as it is. -/
theorem again (hlived : Lived origin past store)
    (hremoved : ∃ step ∈ past, step.call = .remove) (call : StoreCall) (host : Host) :
    Lived origin (past ++ [.ofCall call (host, store)]) (store.call call host).1.2 := by
  obtain ⟨hclosed, hdeletions⟩ := hlived.closed hremoved
  rw [hclosed.call_eq]
  refine ⟨hlived.path_eq, fun hnever => ?_, fun _ => ⟨hclosed, hdeletions⟩⟩
  obtain ⟨step, hmem, hremove⟩ := hremoved
  exact absurd hremove (hnever step (List.mem_append_left _ hmem))

/-- A store that has not been removed is removed now, or not yet. -/
theorem opens (hlived : Lived origin past store) (hnever : ∀ step ∈ past, step.call ≠ .remove)
    (call : StoreCall) (host : Host) :
    Lived origin (past ++ [.ofCall call (host, store)]) (store.call call host).1.2 := by
  obtain ⟨hopen, hdeletions⟩ := hlived.opened hnever
  obtain ⟨handle, hhandle⟩ := Option.isSome_iff_exists.mp hopen
  by_cases hcall : call = .remove
  · subst hcall
    have hshut : (store.call .remove host).1.2 = store.shut := (shuts_remove host hhandle).store_eq
    rw [hshut]
    refine ⟨hlived.path_eq, fun hnever => ?_, fun _ => ⟨store.closed_shut, ?_⟩⟩
    · exact absurd rfl (hnever (.ofCall .remove (host, store)) (by simp))
    · rw [shut, hdeletions, hlived.path_eq]
  · obtain ⟨hremains, -, -⟩ := open_call host hhandle hcall
    refine ⟨hremains.path_eq.trans hlived.path_eq,
      fun _ => ⟨hremains.isSome_handle.trans hopen, hremains.deletions_eq.trans hdeletions⟩,
      fun hremoved => ?_⟩
    obtain ⟨step, hmem, hremove⟩ := hremoved
    rcases List.mem_append.mp hmem with hmem | hmem
    · exact absurd hremove (hnever step hmem)
    · obtain rfl := List.mem_singleton.mp hmem
      exact absurd hremove hcall

/-- A call keeps the life of the store as it must be; only a removal ends it. -/
theorem call (hlived : Lived origin past store) (call : StoreCall) (host : Host) :
    Lived origin (past ++ [.ofCall call (host, store)]) (store.call call host).1.2 := by
  by_cases hremoved : ∃ step ∈ past, step.call = .remove
  · exact hlived.again hremoved call host
  · exact hlived.opens (fun step hmem hremove => hremoved ⟨step, hmem, hremove⟩) call host

end Lived

/-- Every call of a history falls in the life of the store as the calls before it have left it. -/
theorem lived_of_history (hopen : store.handle.isSome) {events : List StoreEvent}
    {past future : List StoreStep} {step : StoreStep}
    (hsteps : (history events (host, store)).1 = past ++ step :: future) :
    step = .ofCall step.call step.before ∧ Lived store past step.before.2 ∧
      Lived store (past ++ [step]) step.after.2 := by
  have hstart : Lived store [] store := lived_nil hopen
  have hlived := history_induction (fun past state => Lived store past state.2)
    (fun _ _ _ _ hlived => hlived) (fun _ state call _ hlived => hlived.call call state.1)
    hstart hsteps
  exact hlived

/-- What is left of a store in the end. -/
theorem lived_final (hopen : store.handle.isSome) (events : List StoreEvent) :
    Lived store (history events (host, store)).1 (history events (host, store)).2.2 :=
  @history_final (fun past state => Lived store past state.2) events
    (fun _ _ _ hlived => hlived) (fun _ state call hlived => hlived.call call state.1)
    [] (host, store) (lived_nil hopen)

/-- What the call `step` is like in the life of the store `origin`, `past` being the calls
before it. -/
structure ClosesOnce (origin : Store) (past : List StoreStep) (step : StoreStep) : Prop where
  /-- Until it is removed, the store is open and tells nobody that it is closed; only its
  removal closes it and touches the directory entries of the host. -/
  opened : (∀ earlier ∈ past, earlier.call ≠ .remove) →
    step.before.2.handle.isSome ∧ step.reply ≠ .appended (.error .closed) ∧
      (step.call ≠ .remove → step.after.2.handle.isSome ∧
        step.after.2.deletions = step.before.2.deletions ∧
        step.after.1.tree.nodes = step.before.1.tree.nodes)
  /-- The first removal closes the store and tries to delete the file of its path.  It fails
  exactly if that fails, and for the same reason. -/
  removed : (∀ earlier ∈ past, earlier.call ≠ .remove) → step.call = .remove →
    step.after.2.deletions = step.before.2.deletions ++ [origin.path] ∧ step.after.2.Closed ∧
      ∃ handle, step.before.2.handle = some handle ∧
        ((∃ after, (step.before.1.close handle).deleteFile origin.path = .ok after ∧
            step.reply = .removed (.ok ()) ∧ step.after.1 = after) ∨
          ∃ cause, (step.before.1.close handle).deleteFile origin.path = .error cause ∧
            step.reply = .removed (.error (.remove origin.path cause)) ∧
            step.after.1 = step.before.1.close handle)
  /-- From then on every call is answered alike and touches nothing. -/
  refused : (∃ earlier ∈ past, earlier.call = .remove) →
    step.before.2.Closed ∧ step.reply = step.call.refusal ∧ step.after = step.before

/-- So the call closes the store exactly if it is the first removal. -/
theorem closesOnce_of_lived {past : List StoreStep} {state : Host × Store}
    (hlived : Lived store past state.2) (call : StoreCall) :
    ClosesOnce store past (.ofCall call state) where
  opened hnever := by
    obtain ⟨hopen, -⟩ := hlived.opened hnever
    obtain ⟨handle, hhandle⟩ := Option.isSome_iff_exists.mp hopen
    refine ⟨hopen, ?_, fun hcall => ?_⟩
    · by_cases hcall : call = .remove
      · subst hcall
        exact nofun
      · exact (open_call state.1 hhandle hcall).2.2
    · obtain ⟨hremains, hnodes, -⟩ := open_call state.1 hhandle hcall
      exact ⟨hremains.isSome_handle.trans hopen, hremains.deletions_eq, hnodes⟩
  removed hnever hcall := by
    obtain rfl : call = .remove := hcall
    obtain ⟨hopen, -⟩ := hlived.opened hnever
    obtain ⟨handle, hhandle⟩ := Option.isSome_iff_exists.mp hopen
    have hshuts := shuts_remove state.1 hhandle
    have hshut : (state.2.call .remove state.1).1.2 = state.2.shut := hshuts.store_eq
    rw [← hlived.path_eq]
    simp only [StoreStep.ofCall]
    rw [hshut]
    refine ⟨rfl, state.2.closed_shut, handle, hhandle, ?_⟩
    generalize hremoved : state.2.remove state.1 = outcome at hshuts
    cases hshuts with
    | deleted after hdeletion =>
        refine .inl ⟨after, hdeletion, ?_, ?_⟩ <;> simp [Store.call, hremoved]
    | kept cause hdeletion =>
        refine .inr ⟨cause, hdeletion, ?_, ?_⟩ <;> simp [Store.call, hremoved]
  refused hremoved := by
    obtain ⟨hclosed, -⟩ := hlived.closed hremoved
    have hcall := hclosed.call_eq call state.1
    exact ⟨hclosed, congrArg (·.2) hcall, congrArg (·.1) hcall⟩

/-- The first removal closes a store for good.  Until then no append is told that the store
is closed, and from then on every call is answered alike: an append is refused, there are no
records, and a removal succeeds; none of them touches the store or the host, whatever is
found at the path by then.  The file is tried to be deleted exactly once, by the first
removal, which fails exactly if that does; a store that is not removed asks for no deletion. -/
theorem closes_once_of_history (hopen : store.handle.isSome) (events : List StoreEvent) :
    let steps := (history events (host, store)).1
    let final := (history events (host, store)).2.2
    (∀ past step future, steps = past ++ step :: future → ClosesOnce store past step) ∧
      ((∃ step ∈ steps, step.call = .remove) →
        final.deletions = store.deletions ++ [store.path]) ∧
      ((∀ step ∈ steps, step.call ≠ .remove) → final.deletions = store.deletions) := by
  intro steps final
  have hlived : Lived store steps final := lived_final hopen events
  refine ⟨?_, fun hremoved => (hlived.closed hremoved).2, fun hnever => (hlived.opened hnever).2⟩
  intro past step future hsteps
  obtain ⟨hcall, hbefore, -⟩ := lived_of_history hopen hsteps
  rw [hcall]
  exact closesOnce_of_lived hbefore step.call

section Example

/-- The file is deleted behind the back of the store before the store is removed, and made
again between that removal and the next one. -/
private def vanishedFileEvents : List StoreEvent :=
  [.call (.append .none [104, 105, 10]),
    .change fun host => { host with tree := host.tree.erase [[100]] },
    .call .remove,
    .change fun host => { host with tree := host.tree.insert [[100]] (.file 0) },
    .call .remove, .call (.append .none [120, 10]), .call .snapshot, .call .length]

/-- The file is gone when the store is removed, which fails, and is back when it is removed again,
which does not touch it. -/
theorem closes_once_of_vanishedFileEvents :
    ∃ (created : Host) (store : Store),
      create [slash, 100] staleHost = .ok (created, store) ∧ store.handle.isSome ∧
      let steps := (history vanishedFileEvents (created, store)).1
      (history vanishedFileEvents (created, store)).2.2.deletions = [[slash, 100]] ∧
        (∃ cause step, steps[1]? = some step ∧
          step.reply = .removed (.error (.remove [slash, 100] cause))) ∧
        ∀ step ∈ steps.drop 2, step.reply = step.call.refusal ∧ step.after = step.before := by
  refine ⟨_, _, create_staleHost, rfl, ?_⟩
  intro steps
  obtain ⟨hsteps, hdeletions, -⟩ :=
    @closes_once_of_history emptiedStore emptiedHost rfl vanishedFileEvents
  have hremoval : steps[1].call = .remove := rfl
  have hsplit : steps = steps.take 1 ++ steps[1] :: steps.drop 2 := by
    conv_lhs => rw [← List.take_append_drop 1 steps, List.drop_eq_getElem_cons (by decide)]
  refine ⟨hdeletions ⟨steps[1], List.getElem_mem _, hremoval⟩, ?_, ?_⟩
  · have hnever : ∀ earlier ∈ steps.take 1, earlier.call ≠ .remove := by
      intro earlier hmem
      obtain rfl := List.mem_singleton.mp hmem
      exact nofun
    obtain ⟨-, -, handle, -, hdeletion⟩ := (hsteps _ _ _ hsplit).removed hnever hremoval
    rcases hdeletion with ⟨after, hdeleted, -⟩ | ⟨cause, -, hreply, -⟩
    · -- nothing is named `d` by then
      have hnode : (steps[1].before.1.close handle).tree.node? [[100]] = none :=
        FileTree.node?_erase_self (by simp)
      have hpath : emptiedStore.path = [slash, 100] := rfl
      unfold Host.deleteFile at hdeleted
      rw [hpath, entryAt_root, hnode] at hdeleted
      cases hdeleted
    · exact ⟨cause, steps[1], rfl, hreply⟩
  · intro step hmem
    obtain ⟨past, future, hrest⟩ := List.append_of_mem hmem
    have hlater : steps = (steps.take 1 ++ steps[1] :: past) ++ step :: future := by
      rw [List.append_assoc, List.cons_append, ← hrest]
      exact hsplit
    obtain ⟨-, hreply, hsame⟩ :=
      (hsteps _ _ _ hlater).refused ⟨steps[1], by simp, hremoval⟩
    exact ⟨hreply, hsame⟩

end Example

end Store

end LineLog
