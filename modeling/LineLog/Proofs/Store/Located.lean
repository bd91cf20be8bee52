import LineLog.Proofs.Store.Closing
import LineLog.Proofs.Store.Opening

/-!
# The file behind the path of a store

Creating a store fixes the absolute path without links of the very file that was opened, also where
the path that was given goes through links or makes the target of one.  As long as the components
of that path are what they were, removing the store deletes this one entry, whatever directory is
current by then.
-/

namespace LineLog

namespace Host

variable {host later after : Host} {location front : Location} {name : Name} {node : Node}

def enter (directory : Path) (host : Host) : Host :=
  match host.changeDirectory directory with
  | .ok entered => entered
  | .error _ => host

theorem tree_enter (directory : Path) (host : Host) : (host.enter directory).tree = host.tree := by
  unfold enter
  split
  · next entered hentered =>
    obtain ⟨⟨location, node⟩, -, hrest⟩ := exists_of_bind_eq_ok hentered
    split at hrest
    · cases hrest
      rfl
    · cases hrest
  · rfl

/-- The entries on the way to the location, and the one there, are what they were. -/
def Intact (location : Location) (host later : Host) : Prop :=
  ∀ front, front <+: location → later.tree.node? front = host.tree.node? front

structure Erased (location : Location) (host after : Host) : Prop where
  gone : after.tree.node? location = none
  others : ∀ other, other ≠ location → after.tree.node? other = host.tree.node? other
  links : ∀ other target, host.tree.node? other = some (.link target) →
    after.tree.node? other = some (.link target)
  contents : ∀ id, after.tree.fileContents id = host.tree.fileContents id

theorem erased_erase (hbelow : location ≠ []) (hnode : host.tree.node? location = some node)
    (hlink : ∀ target, node ≠ .link target) :
    host.Erased location { host with tree := host.tree.erase location } where
  gone := FileTree.node?_erase_self hbelow
  others _ hother := FileTree.node?_erase_of_ne hother
  links other target hother := by
    refine (FileTree.node?_erase_of_ne ?_).trans hother
    rintro rfl
    exact hlink target (Option.some.inj (hnode.symm.trans hother))
  contents _ := rfl

/-- The system deletes a file by its absolute path if only directories are on the way. -/
theorem deleteFile_eq (hreaches : host.tree.Reaches front name)
    (hnode : host.tree.node? (front ++ [name]) = some node) (hdirectory : node ≠ .directory) :
    host.deleteFile (Path.ofNames (front ++ [name])) =
      .ok { host with tree := host.tree.erase (front ++ [name]) } := by
  have hentry : host.entryAt (Path.ofNames (front ++ [name])) =
      .ok (some (⟨front, name, false⟩, some node)) := by
    unfold entryAt
    rw [hreaches.place_eq, ← hnode]
    rfl
  unfold deleteFile
  rw [hentry]
  cases node with
  | directory => exact absurd rfl hdirectory
  | file | link | device => rfl

end Host

namespace Store

variable {host created : Host} {store : Store} {handle : Handle} {path resolved : Path}
  {events : List StoreEvent} {location : Location}

def Stays (events : List StoreEvent) : Prop :=
  ∀ call, .call call ∈ events → call ≠ .remove

/-- A store that is not removed stays open at its path. -/
theorem open_of_history (hstays : Stays events) (hopen : store.handle.isSome) :
    (history events (host, store)).2.2.handle.isSome ∧
      (history events (host, store)).2.2.path = store.path := by
  induction events generalizing host store with
  | nil => exact ⟨hopen, rfl⟩
  | cons event events ih =>
      have hrest : Stays events := fun call hmem => hstays call (List.mem_cons_of_mem _ hmem)
      cases event with
      | change change => exact ih hrest hopen
      | call call =>
          obtain ⟨handle, hhandle⟩ := Option.isSome_iff_exists.mp hopen
          obtain ⟨hremains, -⟩ := open_call host hhandle (hstays call List.mem_cons_self)
          obtain ⟨hfinal, hsame⟩ := ih hrest (hremains.isSome_handle.trans hopen)
          exact ⟨hfinal, hsame.trans hremains.path_eq⟩

/-- A store that is not removed makes no entries and takes none away. -/
theorem node?_of_history (hstays : Stays events) (hopen : store.handle.isSome)
    (henters : ∀ change, .change change ∈ events → ∃ directory, change = Host.enter directory)
    (front : Location) :
    (history events (host, store)).2.1.tree.node? front = host.tree.node? front := by
  induction events generalizing host store with
  | nil => rfl
  | cons event events ih =>
      have hrest : Stays events := fun call hmem => hstays call (List.mem_cons_of_mem _ hmem)
      have hothers : ∀ change, .change change ∈ events →
          ∃ directory, change = Host.enter directory :=
        fun change hmem => henters change (List.mem_cons_of_mem _ hmem)
      cases event with
      | change change =>
          obtain ⟨directory, rfl⟩ := henters change List.mem_cons_self
          refine (ih hrest hopen hothers).trans ?_
          rw [Host.tree_enter]
      | call call =>
          obtain ⟨handle, hhandle⟩ := Option.isSome_iff_exists.mp hopen
          obtain ⟨hremains, hnodes, -⟩ :=
            open_call host hhandle (hstays call List.mem_cons_self)
          have hafter := hremains.isSome_handle.trans hopen
          exact (ih hrest hafter hothers).trans (FileTree.node?_congr hnodes front)

/-- How the path of a new store belongs to the file behind it. -/
structure Located (path : Path) (host created : Host) (store : Store) (location : Location)
    (handle : Handle) : Prop where
  /-- The path is absolute. -/
  absolute : store.path.head? = some slash
  path_eq : store.path = Path.ofNames location
  /-- It goes along directories, so there is no link in it. -/
  directories : ∀ front, front <+: location → front ≠ location →
    created.tree.node? front = some .directory
  /-- It ends at the file that was opened. -/
  handle_eq : store.handle = some handle
  entry : created.tree.node? location = some handle.opened.node
  /-- The path that was given leads there, through whatever links. -/
  given : created.tree.find created.current path = .ok (location, handle.opened.node)
  /-- The path of the store leads there from every directory. -/
  named : ∀ current, created.tree.find current store.path = .ok (location, handle.opened.node)
  emptied : (created.fileOf handle).contents = .empty
  /-- At most this entry is new. -/
  made : host.tree.node? location = none ∨
    host.tree.node? location = some handle.opened.node
  others : ∀ other, other ≠ location → created.tree.node? other = host.tree.node? other
  contents : ∀ id, handle.opened ≠ .file id →
    created.tree.fileContents id = host.tree.fileContents id
  /-- As long as the way to the entry is intact, removing the store deletes it and nothing else. -/
  removed : ∀ events, Stays events →
    created.Intact location (history events (created, store)).2.1 →
      ∃ after closed, (history events (created, store)).2.2.remove
          (history events (created, store)).2.1 = ((after, closed), .ok ()) ∧
        (history events (created, store)).2.1.Erased location after
  /-- Neither calls of the store nor changes of the directory touch the way. -/
  intact : ∀ events, Stays events →
    (∀ change, .change change ∈ events → ∃ directory, change = Host.enter directory) →
      created.Intact location (history events (created, store)).2.1

/-- Removing the store deletes the entry at its location, since its path still leads there. -/
theorem removed_of_intact {front : Location} {name : Name}
    (hreaches : created.tree.Reaches front name)
    (hentry : created.tree.node? (front ++ [name]) = some handle.opened.node)
    (hopen : store.handle.isSome) (hpath : store.path = Path.ofNames (front ++ [name]))
    (hstays : Stays events)
    (hintact : created.Intact (front ++ [name]) (history events (created, store)).2.1) :
    ∃ after closed, (history events (created, store)).2.2.remove
        (history events (created, store)).2.1 = ((after, closed), .ok ()) ∧
      (history events (created, store)).2.1.Erased (front ++ [name]) after := by
  obtain ⟨hlast, hsame⟩ : (history events (created, store)).2.2.handle.isSome ∧
      (history events (created, store)).2.2.path = store.path := open_of_history hstays hopen
  generalize (history events (created, store)).2 = final at *
  obtain ⟨later, last⟩ := final
  obtain ⟨lastHandle, hhandle⟩ := Option.isSome_iff_exists.mp hlast
  have hway : (later.close lastHandle).tree.Reaches front name :=
    { names := hreaches.names
      directories := fun other hother =>
        (hintact other (hother.trans (List.prefix_append _ _))).trans
          (hreaches.directories other hother)
      length_lt := hreaches.length_lt }
  have hthere : (later.close lastHandle).tree.node? (front ++ [name]) =
      some handle.opened.node :=
    (hintact (front ++ [name]) (List.prefix_refl _)).trans hentry
  have hremove : last.remove later =
      (({ later.close lastHandle with tree := later.tree.erase (front ++ [name]) },
        last.shut), .ok ()) := by
    unfold remove
    rw [show last.handle = some lastHandle from hhandle]
    dsimp only
    rw [show last.path = store.path from hsame, hpath,
      Host.deleteFile_eq hway hthere Opened.node_ne_directory]
    rfl
  obtain ⟨hgone, hothers, hlinks, hcontents⟩ :=
    Host.erased_erase (by simp) hthere Opened.node_ne_link
  exact ⟨_, _, hremove, hgone, hothers, hlinks, hcontents⟩

/-- A store is made of what was opened and of its resolved path. -/
theorem exists_open_of_create (hcreate : create path host = .ok (created, store))
    (hcanonical : created.tree.canonicalize created.current path = .ok resolved) :
    ∃ handle, host.openForWriting .truncate path = .ok (created, handle) ∧
      store = { path := resolved, bytes := [], handle := some handle, deletions := [] } := by
  unfold create at hcreate
  split at hcreate
  · cases hcreate
  · next opened handle hopen =>
    cases hcreate
    refine ⟨handle, hopen, ?_⟩
    rw [hcanonical]

/-- The resolved path of a new store names the file that was opened, wherever the process goes, and
removing the store deletes the entry of this file and no other. -/
theorem located_of_create (hwell : host.tree.WellFormed)
    (hcreate : create path host = .ok (created, store))
    (hcanonical : created.tree.canonicalize created.current path = .ok resolved) :
    ∃ location handle, Located path host created store location handle ∧ store.path = resolved := by
  obtain ⟨handle, hopen, rfl⟩ := exists_open_of_create hcreate hcanonical
  obtain ⟨location, hopens⟩ := Host.exists_opens hwell hopen
  obtain ⟨found, node, hgiven, rfl, hlength⟩ := FileTree.exists_find_of_canonicalize hcanonical
  -- both walks go the same way
  obtain ⟨rfl, rfl⟩ := Destination.found.inj (Except.ok.inj
    ((FileTree.walk_of_leads (FileTree.leads_of_find hgiven)).symm.trans
      (FileTree.walk_of_leads hopens.leads.of_create)))
  obtain ⟨front, name, rfl⟩ : ∃ front name, found = front ++ [name] := by
    rcases List.eq_nil_or_concat found with rfl | ⟨front, name, rfl⟩
    · exact absurd (Option.some.inj hopens.entry).symm Opened.node_ne_directory
    · exact ⟨front, name, List.concat_eq_append⟩
  have hdirectories (other : Location) (hother : other <+: front ++ [name])
      (hne : other ≠ front ++ [name]) : created.tree.node? other = some .directory :=
    (hopens.others other hne).trans (hopens.directories other hother hne)
  have hreaches : created.tree.Reaches front name :=
    { names := hopens.names
      directories := fun other hother => by
        refine hdirectories other (hother.trans (List.prefix_append _ _)) ?_
        rintro rfl
        exact absurd hother.length_le (by simp)
      length_lt := hlength }
  refine ⟨front ++ [name], handle, ?_, rfl⟩
  exact
    { absolute := Path.head?_ofNames _
      path_eq := rfl
      directories := hdirectories
      handle_eq := rfl
      entry := hopens.entry
      given := hgiven
      named := hreaches.find_eq hopens.entry Opened.node_ne_directory Opened.node_ne_link
      emptied := hopens.emptied
      made := hopens.made
      others := hopens.others
      contents := hopens.contents
      removed := fun _ => removed_of_intact hreaches hopens.entry rfl rfl
      intact := fun _ hstays henters front _ => node?_of_history hstays rfl henters front }

section Example

/-- A directory with a link into another one, where the target does not exist yet. -/
private def linkedHost : Host where
  tree := ⟨[([[97]], .directory), ([[97], [108]], .link (Bytes.ofString "../b/f")),
    ([[98]], .directory)], #[]⟩
  current := [[97]]
  sizeLimit := none
  descriptors := .none
  network := .isolated

private def linkedCreated : Host :=
  { linkedHost with
    tree := (linkedHost.tree.createFile [[98], [102]]).1
    descriptors := ⟨[0], none⟩ }

private def linkedStore : Store :=
  ⟨⟨Bytes.ofString "/b/f", []⟩, [], some ⟨0, .file 0, 0⟩⟩

/-- The process leaves for another directory and appends a record. -/
private def leavingEvents : List StoreEvent :=
  [.change (Host.enter (Bytes.ofString "/b")), .call (.append .none [120, 10])]

private theorem wellFormed_linkedHost : linkedHost.tree.WellFormed := by
  have hletter : ∀ letter ∈ ([97, 98, 108] : Bytes), Path.FileName [letter] := by
    intro letter hmem
    simp only [List.mem_cons, List.not_mem_nil, or_false] at hmem
    rcases hmem with rfl | rfl | rfl <;>
      exact ⟨⟨by decide, by decide, by decide⟩, by decide, by decide, by decide⟩
  refine FileTree.wellFormed_of_forall fun entry hmem => ?_
  simp only [linkedHost, List.mem_cons, List.not_mem_nil, or_false] at hmem
  rcases hmem with rfl | rfl | rfl
  · exact ⟨[], [97], rfl, rfl, hletter 97 (by decide), nofun⟩
  · refine ⟨[[97]], [108], rfl, by decide, hletter 108 (by decide), ?_⟩
    rintro target ⟨⟩
    decide
  · exact ⟨[], [98], rfl, rfl, hletter 98 (by decide), nofun⟩

/-- The link leads out of its directory and into the other one. -/
private theorem resolve_linkedPath (tree : FileTree) {purpose : Purpose} {destination : Destination}
    (hfollow : purpose.follow = true)
    (hlink : tree.node? [[97], [108]] = some (.link (Bytes.ofString "../b/f")))
    (hdirectory : tree.node? [[98]] = some .directory)
    (hend : FileTree.Leads tree purpose 39 [[98]] [[102]] false destination) :
    tree.resolve [[97]] purpose (Bytes.ofString "l") = .ok destination := by
  have hroute : Path.route (Bytes.ofString "l") = ⟨false, [[108]], false⟩ := by decide
  have htarget : Path.route (Bytes.ofString "../b/f") = ⟨false, [Path.up, [98], [102]], false⟩ := by
    decide
  have hletter (letter : UInt8) (rest : List Name) (hdot : letter ≠ 46) :
      FileTree.Enters purpose [letter] rest false :=
    ⟨by simpa [Path.here, dot] using hdot, by simp [Path.up], by simp [Path.maxName], by simp⟩
  have hcrosses : FileTree.Leads tree purpose 39 [[97]] [Path.up, [98], [102]] false destination :=
    .rises (.enters (hletter 98 _ (by decide)) hdirectory hend)
  have hleads : FileTree.Leads tree purpose FileTree.maxLinks [[97]] [[108]] false destination := by
    refine .follows (hletter 108 _ (by decide)) (by simp [hfollow]) hlink ?_
    rw [htarget]
    exact hcrosses
  have hwalk := FileTree.walk_of_leads hleads
  change tree.walk purpose _ (if (Path.route (Bytes.ofString "l")).absolute then [] else [[97]])
    (Path.route (Bytes.ofString "l")).names (Path.route (Bytes.ofString "l")).directory = _
  rw [hroute]
  exact hwalk

/-- The store is created through a link, and removed from another directory. -/
theorem located_of_linkedHost :
    linkedHost.tree.WellFormed ∧
      create (Bytes.ofString "l") linkedHost = .ok (linkedCreated, linkedStore) ∧
      linkedCreated.tree.canonicalize linkedCreated.current (Bytes.ofString "l") =
        .ok (Bytes.ofString "/b/f") ∧
      Located (Bytes.ofString "l") linkedHost linkedCreated linkedStore [[98], [102]]
        ⟨0, .file 0, 0⟩ ∧
      ∃ after closed, (history leavingEvents (linkedCreated, linkedStore)).2.2.remove
          (history leavingEvents (linkedCreated, linkedStore)).2.1 = ((after, closed), .ok ()) ∧
        after.tree.node? [[98], [102]] = none ∧
        after.tree.node? [[97], [108]] = some (.link (Bytes.ofString "../b/f")) := by
  have hopen : linkedHost.openForWriting .truncate (Bytes.ofString "l") =
      .ok (linkedCreated, ⟨0, .file 0, 0⟩) := by
    have hend : FileTree.Leads linkedHost.tree ⟨true, true⟩ 39 [[98]] [[102]] false
        (.missing [[98]] [102]) :=
      .missing ⟨by decide, by decide, by decide, rfl⟩ rfl
    unfold Host.openForWriting
    rw [Host.takeDescriptor_of_none rfl]
    change (linkedHost.tree.resolve [[97]] ⟨true, true⟩ _ >>= _) = _
    rw [resolve_linkedPath linkedHost.tree rfl rfl rfl hend]
    rfl
  have hfind : linkedCreated.tree.find linkedCreated.current (Bytes.ofString "l") =
      .ok ([[98], [102]], .file 0) := by
    have hend : FileTree.Leads linkedCreated.tree ⟨true, false⟩ 39 [[98]] [[102]] false
        (.found [[98], [102]] (.file 0)) :=
      .entry ⟨by decide, by decide, by decide, rfl⟩ (by simp) (by simp) rfl
    unfold FileTree.find
    change (linkedCreated.tree.resolve [[97]] ⟨true, false⟩ _ >>= _) = _
    rw [resolve_linkedPath linkedCreated.tree rfl rfl rfl hend]
    rfl
  have hcanonical : linkedCreated.tree.canonicalize linkedCreated.current (Bytes.ofString "l") =
      .ok (Bytes.ofString "/b/f") := by
    unfold FileTree.canonicalize
    rw [hfind]
    rfl
  have hcreate : create (Bytes.ofString "l") linkedHost = .ok (linkedCreated, linkedStore) := by
    unfold create
    simp only [hopen, hcanonical]
    rfl
  obtain ⟨location, handle, hlocated, -⟩ :=
    located_of_create wellFormed_linkedHost hcreate hcanonical
  obtain rfl := Option.some.inj hlocated.handle_eq
  obtain ⟨rfl, -⟩ := Prod.mk.inj (Except.ok.inj (hlocated.given.symm.trans hfind))
  have hstays : Stays leavingEvents := by
    simp [Stays, leavingEvents]
  have henters : ∀ change, .change change ∈ leavingEvents →
      ∃ directory, change = Host.enter directory := by
    simp [leavingEvents]
  have hintact := hlocated.intact leavingEvents hstays henters
  obtain ⟨after, closed, hremove, hgone, -, hlinks, -⟩ :=
    hlocated.removed leavingEvents hstays hintact
  have hlink : linkedCreated.tree.node? [[97], [108]] =
      some (.link (Bytes.ofString "../b/f")) := rfl
  exact ⟨wellFormed_linkedHost, hcreate, hcanonical, hlocated, after, closed, hremove, hgone,
    hlinks _ _ ((node?_of_history hstays rfl henters _).trans hlink)⟩

end Example

end Store

end LineLog
