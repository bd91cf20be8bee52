import LineLog.Proofs.Host
import LineLog.Proofs.Log.Append
import LineLog.Proofs.Run
import LineLog.Proofs.Store.History

/-!
# The backing file of a store

A store over a regular file is backed if the file holds exactly the records in
memory and the next write goes behind them.  Creating a store backs it, and every
append keeps it backed, also one that fails part way, as long as the file can be
cut back and nobody else writes to it.
-/

namespace LineLog

/-- Opening a regular file in order to replace it leaves it empty. -/
theorem Host.openForWriting_truncate {path : Path} {host opened : Host} {handle : Handle}
    {id : Nat} (hopen : host.openForWriting .truncate path = .ok (opened, handle))
    (hregular : handle.opened = .file id) :
    opened.tree.fileContents id = .empty ∧ handle.position = 0 := by
  unfold Host.openForWriting at hopen
  obtain ⟨-, -, hopen⟩ := exists_of_bind_eq_ok hopen
  obtain ⟨⟨number, taken⟩, -, hopen⟩ := exists_of_bind_eq_ok hopen
  obtain ⟨destination, -, hopen⟩ := exists_of_bind_eq_ok hopen
  split at hopen
  · next directory name =>
    split at hopen
    · obtain ⟨rfl, rfl⟩ := Prod.mk.inj (Except.ok.inj hopen)
      obtain rfl := Opened.file.inj hregular
      exact ⟨FileTree.fileContents_createFile _ _, rfl⟩
    · cases hopen
  · cases hopen
  · cases hopen
  · obtain ⟨rfl, rfl⟩ := Prod.mk.inj (Except.ok.inj hopen)
    cases hregular
  · obtain ⟨rfl, rfl⟩ := Prod.mk.inj (Except.ok.inj hopen)
    obtain rfl := Opened.file.inj hregular
    exact ⟨FileTree.fileContents_setContents_self _ _ _, rfl⟩

namespace Store

/-- The file `id` is open behind the store, it holds exactly what is in memory, and
the next write goes behind that. -/
structure Backed (id : Nat) (store : Store) (host : Host) : Prop where
  contents_eq : (host.tree.fileContents id).toBytes = store.bytes
  handle_eq : ∃ handle, store.handle = some handle ∧ handle.opened = .file id ∧
    handle.position = store.bytes.length

/-- A new store over a regular file is backed and holds nothing. -/
theorem backed_create {path : Path} {host created : Host} {store : Store} {handle : Handle}
    {id : Nat} (hcreate : create path host = .ok (created, store))
    (hhandle : store.handle = some handle) (hregular : handle.opened = .file id) :
    store.Backed id created ∧ store.bytes = [] := by
  unfold create at hcreate
  split at hcreate
  · cases hcreate
  · next opened first hopen =>
    obtain ⟨rfl, rfl⟩ := Prod.mk.inj (Except.ok.inj hcreate)
    obtain rfl : first = handle := Option.some.inj hhandle
    obtain ⟨hcontents, hposition⟩ := Host.openForWriting_truncate hopen hregular
    refine ⟨⟨?_, first, rfl, hregular, hposition⟩, rfl⟩
    rw [hcontents]
    rfl

variable {id : Nat} {store : Store} {host : Host}

/-- The log over the file of a backed store. -/
theorem log_of_handle {handle : Handle} (hhandle : store.handle = some handle)
    (hregular : handle.opened = .file id) :
    store.log host =
      ⟨store.bytes, some ⟨host.tree.fileContents id, handle.position⟩⟩ := by
  simp only [log, hhandle, Option.map_some, Host.fileOf, hregular]

theorem Backed.mirrored_log (hbacked : store.Backed id host) : (store.log host).Mirrored := by
  obtain ⟨hcontents, handle, hhandle, hregular, hposition⟩ := hbacked
  rw [log_of_handle hhandle hregular]
  exact ⟨_, rfl, hcontents, hposition⟩

/-- Putting a mirrored log back behind the handle of its file backs the store. -/
theorem backed_putLog (store : Store) (host : Host) {handle : Handle} {log : Log}
    (hregular : handle.opened = .file id) (hmirrored : log.Mirrored) :
    (store.putLog handle log host).2.Backed id (store.putLog handle log host).1 ∧
      (store.putLog handle log host).2.bytes = log.bytes := by
  obtain ⟨file, hopen, hends⟩ := hmirrored
  simp only [putLog, hopen, Host.putFile, hregular, and_true]
  refine ⟨?_, _, rfl, rfl, hends.position_eq⟩
  rw [FileTree.fileContents_setContents_self]
  exact hends.toBytes_eq

/-- An append that can be undone keeps the store backed, however it ends. -/
theorem Backed.appendAgainst {obstacles : Obstacles} (hbacked : store.Backed id host)
    (hrollback : ∀ file, obstacles.truncate file = ⟨none, none⟩) (record : Bytes) :
    (store.appendAgainst obstacles record host).1.2.Backed id
        (store.appendAgainst obstacles record host).1.1 ∧
      (store.appendAgainst obstacles record host).1.2.bytes =
        store.bytes ++ Log.addedBy record (store.appendAgainst obstacles record host).2 := by
  obtain ⟨handle, hhandle, hregular, -⟩ := hbacked.handle_eq
  simp only [Store.appendAgainst, hhandle]
  have hlog : ((store.log host).append obstacles record).1.Mirrored :=
    hbacked.mirrored_log.append hrollback
  obtain ⟨hafter, hbytes⟩ := backed_putLog store host hregular hlog
  refine ⟨hafter, ?_⟩
  rw [hbytes, Log.bytes_append]
  rfl

end Store

def StoreStep.added (step : StoreStep) : Bytes :=
  match step.call, step.reply with
  | .append _ record, .appended (.ok ()) => record
  | _, _ => []

/-- An append that can be undone if it fails, a look at the store, or a change to
the host that leaves the file `id` as it is. -/
def StoreEvent.Spares (id : Nat) : StoreEvent → Prop
  | .call (.append obstacles _) => ∀ file, obstacles.truncate file = ⟨none, none⟩
  | .call .remove => False
  | .call .snapshot | .call .length => True
  | .change effect =>
      ∀ host, (effect host).tree.fileContents id = host.tree.fileContents id

namespace Store

variable {id : Nat} {store : Store} {host : Host}

/-- A call keeps the store backed, and adds what its reply says. -/
theorem Backed.call {call : StoreCall} (hbacked : store.Backed id host)
    (hspares : StoreEvent.Spares id (.call call)) :
    (store.call call host).1.2.Backed id (store.call call host).1.1 ∧
      (store.call call host).1.2.bytes =
        store.bytes ++ (StoreStep.ofCall call (host, store)).added := by
  cases call with
  | append obstacles record =>
      obtain ⟨hafter, hbytes⟩ := hbacked.appendAgainst hspares record
      refine ⟨hafter, hbytes.trans ?_⟩
      simp only [StoreStep.ofCall, Store.call, StoreStep.added]
      cases (store.appendAgainst obstacles record host).2 <;> rfl
  | snapshot | length => exact ⟨hbacked, (List.append_nil _).symm⟩
  | remove => exact hspares.elim

/-- Others who leave the file alone keep the store backed. -/
theorem Backed.change {change : Host → Host} (hbacked : store.Backed id host)
    (hspares : StoreEvent.Spares id (.change change)) : store.Backed id (change host) where
  contents_eq := by rw [hspares host, hbacked.contents_eq]
  handle_eq := hbacked.handle_eq

/-- Between the calls of a history that spares the file the store stays backed, and
the memory holds what the calls so far have added. -/
theorem Backed.history (hbacked : store.Backed id host) {events : List StoreEvent}
    (hspares : ∀ event ∈ events, event.Spares id) {past future : List StoreStep}
    {step : StoreStep} (hsteps : (history events (host, store)).1 = past ++ step :: future) :
    step.before.2.Backed id step.before.1 ∧ step.after.2.Backed id step.after.1 ∧
      step.before.2.bytes = store.bytes ++ past.flatMap (·.added) ∧
      step.after.2.bytes = step.before.2.bytes ++ step.added := by
  induction events generalizing store host past with
  | nil => simp [Store.history] at hsteps
  | cons event events ih =>
      have hfirst := hspares event (List.mem_cons_self ..)
      have hothers : ∀ event ∈ events, event.Spares id :=
        fun other hmem => hspares other (List.mem_cons_of_mem _ hmem)
      cases event with
      | change change => exact ih (hbacked.change hfirst) hothers hsteps
      | call call =>
          obtain ⟨hafter, hbytes⟩ := hbacked.call hfirst
          rw [history_eq_cons] at hsteps
          cases past with
          | nil =>
              obtain ⟨rfl, -⟩ := List.cons.inj hsteps
              exact ⟨hbacked, hafter, (List.append_nil _).symm, hbytes⟩
          | cons first past =>
              obtain ⟨rfl, hrest⟩ := List.cons.inj hsteps
              obtain ⟨hbefore, hend, hpast, hstep⟩ := ih hafter hothers hrest
              refine ⟨hbefore, hend, ?_, hstep⟩
              rw [hpast, hbytes, List.flatMap_cons, List.append_assoc]

/-- After every append to a new store over a regular file, the file holds what is in
memory, that is the records whose append succeeded, and the next write goes behind
them.  The system may take the records in any pieces and fail at any point; others
may do anything to the host but change the file. -/
theorem file_eq_bytes_of_history {path : Path} {host created : Host} {store : Store}
    {handle : Handle} {id : Nat} (hcreate : create path host = .ok (created, store))
    (hhandle : store.handle = some handle) (hregular : handle.opened = .file id)
    {events : List StoreEvent} (hspares : ∀ event ∈ events, event.Spares id)
    {past future : List StoreStep} {step : StoreStep}
    (hsteps : (history events (created, store)).1 = past ++ step :: future) :
    step.after.2.bytes = (past ++ [step]).flatMap (·.added) ∧
      (step.after.1.tree.fileContents id).toBytes = step.after.2.bytes ∧
      (∃ handle, step.after.2.handle = some handle ∧ handle.opened = .file id ∧
        handle.position = step.after.2.bytes.length) ∧
      ∀ cause, step.reply = .appended (.error cause) →
        step.after.2.bytes = step.before.2.bytes ∧
          (step.after.1.tree.fileContents id).toBytes =
            (step.before.1.tree.fileContents id).toBytes ∧
          step.after.2.handle.map (·.position) = step.before.2.handle.map (·.position) := by
  obtain ⟨hcreated, hempty⟩ := backed_create hcreate hhandle hregular
  obtain ⟨hbefore, hafter, hpast, hstep⟩ := hcreated.history hspares hsteps
  refine ⟨?_, hafter.contents_eq, hafter.handle_eq, ?_⟩
  · rw [hstep, hpast, hempty, List.flatMap_append, List.flatMap_singleton, List.nil_append]
  · intro cause hfailed
    have hnothing : step.added = [] := by
      cases hcall : step.call <;> simp only [StoreStep.added, hcall, hfailed]
    have hsame : step.after.2.bytes = step.before.2.bytes := by
      rw [hstep, hnothing, List.append_nil]
    obtain ⟨first, hfirst, -, hfirstPosition⟩ := hbefore.handle_eq
    obtain ⟨last, hlast, -, hlastPosition⟩ := hafter.handle_eq
    refine ⟨hsame, ?_, ?_⟩
    · rw [hafter.contents_eq, hbefore.contents_eq, hsame]
    · rw [hfirst, hlast, Option.map_some, Option.map_some, hfirstPosition, hlastPosition, hsame]

section Example

/-- A host with one file, which is named `d` and is not empty. -/
def staleHost : Host where
  tree := ⟨[([[100]], .file 0)], #[⟨[.written [115, 10]]⟩]⟩
  current := []
  sizeLimit := none
  descriptors := .none
  network := .isolated

def emptiedHost : Host :=
  { staleHost with
    tree := staleHost.tree.setContents 0 .empty
    descriptors := ⟨[0], none⟩ }

def emptiedStore : Store :=
  ⟨⟨[slash, 100], []⟩, [], some ⟨0, .file 0, 0⟩⟩

theorem create_staleHost : create [slash, 100] staleHost = .ok (emptiedHost, emptiedStore) := by
  have hresolve (tree : FileTree) (purpose : Purpose)
      (hnode : tree.node? [[100]] = some (.file 0)) :
      tree.resolve [] purpose [slash, 100] = .ok (.found [[100]] (.file 0)) := by
    have hroute : Path.route [slash, 100] = ⟨true, [[100]], false⟩ := by decide
    change tree.walk purpose _ (if (Path.route [slash, 100]).absolute then [] else [])
      (Path.route [slash, 100]).names (Path.route [slash, 100]).directory = _
    rw [hroute, FileTree.walk]
    simp [Path.here, Path.up, dot, Path.maxName, hnode]
  have hopen : staleHost.openForWriting .truncate [slash, 100] =
      .ok (emptiedHost, ⟨0, .file 0, 0⟩) := by
    unfold Host.openForWriting
    rw [Host.takeDescriptor_of_none rfl]
    change (staleHost.tree.resolve [] ⟨true, true⟩ _ >>= _) = _
    rw [hresolve staleHost.tree _ rfl]
    rfl
  have hcanonical : emptiedHost.tree.canonicalize [] [slash, 100] = .ok [slash, 100] := by
    unfold FileTree.canonicalize FileTree.find
    rw [hresolve emptiedHost.tree _ rfl]
    rfl
  have hcurrent : emptiedHost.current = [] := rfl
  unfold create
  simp only [hopen, hcurrent, hcanonical]
  rfl

/-- What is named `d` in the root of a host. -/
theorem entryAt_root (host : Host) :
    host.entryAt [slash, 100] =
      .ok (some (⟨[], [100], false⟩, host.tree.node? [[100]])) := by
  have hroute : Path.route [slash, 100] = ⟨true, [[100]], false⟩ := by decide
  have hcheck : FileTree.checkPath [slash, 100] = .ok () := rfl
  have hwalk : host.tree.walk ⟨true, false⟩ FileTree.maxLinks [] [] true =
      .ok (.found [] .directory) := by
    rw [FileTree.walk]
  have hplace : host.tree.place host.current [slash, 100] = .ok (some ⟨[], [100], false⟩) := by
    unfold FileTree.place
    rw [hcheck, hroute]
    change (host.tree.walk ⟨true, false⟩ FileTree.maxLinks [] [] true >>= _) = _
    rw [hwalk]
    rfl
  unfold Host.entryAt
  rw [hplace]
  rfl

/-- A record that is written in two pieces, one that fails after two bytes, and
another one. -/
private def brokenEvents : List StoreEvent :=
  let appending (answers : List WriteAnswer) (record : Bytes) : StoreEvent :=
    .call (.append ⟨answers, fun _ => ⟨none, none⟩⟩ record)
  [appending [.accepted 1, .interrupted] [104, 105, 10],
    appending [.accepted 2, .refused Os.Error.noSpace] [108, 111, 115, 116, 10],
    appending [] [120, 10]]

/-- The bytes of an append that has failed are gone from the file, and the next record follows the
one before. -/
theorem file_eq_bytes_of_failed_append :
    ∃ (created : Host) (store : Store) (handle : Handle) (past : List StoreStep)
      (step : StoreStep),
      create [slash, 100] staleHost = .ok (created, store) ∧ store.handle = some handle ∧
        handle.opened = .file 0 ∧ (∀ event ∈ brokenEvents, event.Spares 0) ∧
        (history brokenEvents (created, store)).1 = past ++ step :: [] ∧
        (step.after.1.tree.fileContents 0).toBytes = [104, 105, 10, 120, 10] := by
  have hspares : ∀ event ∈ brokenEvents, event.Spares 0 := by
    simp [brokenEvents, StoreEvent.Spares]
  let steps := (history brokenEvents (emptiedHost, emptiedStore)).1
  have hlength : steps.length = 3 := rfl
  have hsplit : steps = steps.take 2 ++ steps[2] :: [] := by
    conv_lhs => rw [← List.take_append_drop 2 steps, List.drop_eq_getElem_cons (by decide)]
    rfl
  refine ⟨_, _, _, steps.take 2, steps[2], create_staleHost, rfl, rfl, hspares, hsplit, ?_⟩
  have hfile := file_eq_bytes_of_history create_staleHost rfl rfl hspares hsplit
  rw [hfile.2.1, hfile.1]
  rfl

end Example

end Store

end LineLog
