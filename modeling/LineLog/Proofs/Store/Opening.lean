import LineLog.Proofs.FileTree.Paths
import LineLog.Proofs.Store.Append

/-!
# Opening the file of a store

Opening a file in order to replace it empties the file that the path leads to, through whatever
links, or makes it in the directory where the path ends.  No other entry and no other file changes.
-/

namespace LineLog

/-- What stands in the tree for what a descriptor refers to. -/
def Opened.node : Opened → Node
  | .file id => .file id
  | .device kind => .device kind

namespace Opened

variable {opened : Opened}

theorem node_ne_directory : opened.node ≠ .directory := by
  cases opened <;> exact nofun

theorem node_ne_link (target : Path) : opened.node ≠ .link target := by
  cases opened <;> exact nofun

end Opened

namespace FileTree

variable {tree : FileTree} {location other : Location} {node : Node}

/-- What an entry is depends on the entries alone, not on the contents of files. -/
theorem node?_congr {after : FileTree} (hnodes : after.nodes = tree.nodes) (location : Location) :
    after.node? location = tree.node? location := by
  unfold node?
  rw [hnodes]

theorem node?_insert_self (hbelow : location ≠ []) :
    (tree.insert location node).node? location = some node := by
  simp [node?, insert, hbelow]

theorem node?_insert_of_ne (hother : other ≠ location) :
    (tree.insert location node).node? other = tree.node? other := by
  have hpassed : (other == location) = false := beq_eq_false_iff_ne.mpr hother
  have herase : (tree.erase location).node? other = tree.node? other := node?_erase_of_ne hother
  simp only [node?, erase] at herase ⊢
  rw [insert, List.lookup_cons, hpassed]
  exact herase

theorem fileContents_createFile_of_ne {id : Nat} (hid : id ≠ (tree.createFile location).2) :
    (tree.createFile location).1.fileContents id = tree.fileContents id := by
  have hid : id ≠ tree.contents.size := hid
  simp only [fileContents, createFile, insert, Array.getD_eq_getD_getElem?, Array.getElem?_push,
    if_neg hid]

end FileTree

variable {location : Location}

/-- Where a file is that is opened in order to replace it, and what becomes of the tree. -/
structure Host.Opens (path : Path) (tree : FileTree) (opened : Host) (location : Location)
    (handle : Handle) : Prop where
  leads : FileTree.Leads opened.tree ⟨true, true⟩ FileTree.maxLinks
    (if (Path.route path).absolute then [] else opened.current) (Path.route path).names
    (Path.route path).directory (.found location handle.opened.node)
  names : ∀ name ∈ location, Path.FileName name
  directories : ∀ front, front <+: location → front ≠ location →
    tree.node? front = some .directory
  entry : opened.tree.node? location = some handle.opened.node
  made : tree.node? location = none ∨ tree.node? location = some handle.opened.node
  others : ∀ other, other ≠ location → opened.tree.node? other = tree.node? other
  emptied : (opened.fileOf handle).contents = .empty
  contents : ∀ id, handle.opened ≠ .file id → opened.tree.fileContents id = tree.fileContents id

theorem Host.tree_of_takeDescriptor {host taken : Host} {number : Nat}
    (htaken : host.takeDescriptor = .ok (number, taken)) :
    taken.tree = host.tree := by
  unfold Host.takeDescriptor at htaken
  split at htaken
  · cases htaken
  · cases htaken
    rfl

namespace Host.Opens

variable {taken opened : Host} {path : Path} {handle : Handle} {directory : Location} {name : Name}

/-- A file is made at the end of a walk that leads to a missing name. -/
theorem of_missing (hwell : taken.tree.WellFormed) (hzero : 0 ∉ path)
    (hleads : FileTree.Leads taken.tree ⟨true, true⟩ FileTree.maxLinks
      (if (Path.route path).absolute then [] else taken.current) (Path.route path).names
      (Path.route path).directory (.missing directory name))
    (hdirectory : taken.tree.node? directory = some .directory) (number : Nat) :
    Host.Opens path taken.tree
      { taken with tree := (taken.tree.createFile (directory ++ [name])).1 }
      (directory ++ [name]) ⟨number, .file taken.tree.contents.size, 0⟩ := by
  have hname : Path.FileName name :=
    hwell.fileName_of_missing hleads fun _ => Path.piece_of_mem_route hzero
  have hentry : (taken.tree.createFile (directory ++ [name])).1.node? (directory ++ [name]) =
      some (.file taken.tree.contents.size) := FileTree.node?_insert_self (by simp)
  have hothers (other : Location) (hother : other ≠ directory ++ [name]) :
      (taken.tree.createFile (directory ++ [name])).1.node? other = taken.tree.node? other :=
    FileTree.node?_insert_of_ne hother
  refine ⟨hleads.found_of_missing hothers hentry nofun nofun, ?_, ?_, hentry,
    .inl hleads.node?_eq_none, hothers, FileTree.fileContents_createFile _ _, ?_⟩
  · intro other hother
    rcases List.mem_append.mp hother with hother | hother
    · exact hwell.fileName_of_mem hdirectory hother
    · obtain rfl := List.mem_singleton.mp hother
      exact hname
  · intro front hfront hne
    rcases List.prefix_concat_iff.mp hfront with rfl | hfront
    · exact absurd rfl hne
    · by_cases hlast : front = directory
      · rw [hlast, hdirectory]
      · exact hwell.directory_of_prefix hdirectory hfront hlast
  · intro id hid
    refine FileTree.fileContents_createFile_of_ne ?_
    rintro rfl
    exact hid rfl

/-- The entry is kept that a walk leads to. -/
theorem of_found (hwell : taken.tree.WellFormed)
    (hleads : FileTree.Leads taken.tree ⟨true, true⟩ FileTree.maxLinks
      (if (Path.route path).absolute then [] else opened.current) (Path.route path).names
      (Path.route path).directory (.found location handle.opened.node))
    (hnodes : opened.tree.nodes = taken.tree.nodes)
    (hempty : (opened.fileOf handle).contents = .empty)
    (hcontents : ∀ id, handle.opened ≠ .file id →
      opened.tree.fileContents id = taken.tree.fileContents id) :
    Host.Opens path taken.tree opened location handle := by
  have hsame := FileTree.node?_congr hnodes
  have hentry : taken.tree.node? location = some handle.opened.node :=
    hleads.node?_eq.resolve_left Opened.node_ne_directory
  exact
    { leads := hleads.mono fun other found hfound => (hsame other).trans hfound
      names := fun _ => hwell.fileName_of_mem hentry
      directories := fun _ => hwell.directory_of_prefix hentry
      entry := (hsame location).trans hentry
      made := .inr hentry
      others := fun other _ => hsame other
      emptied := hempty
      contents := hcontents }

end Host.Opens

/-- A file that is opened in order to replace it is at one place of the tree, found or made. -/
theorem Host.exists_opens {path : Path} {host opened : Host} {handle : Handle}
    (hwell : host.tree.WellFormed)
    (hopen : host.openForWriting .truncate path = .ok (opened, handle)) :
    ∃ location, Host.Opens path host.tree opened location handle := by
  have hempty : (opened.fileOf handle).contents = .empty := by
    unfold Host.fileOf
    split
    · next id hregular => exact (Host.openForWriting_truncate hopen hregular).1
    · rfl
  unfold Host.openForWriting at hopen
  obtain ⟨⟨⟩, hcheck, hopen⟩ := exists_of_bind_eq_ok hopen
  obtain ⟨⟨number, taken⟩, htaken, hopen⟩ := exists_of_bind_eq_ok hopen
  obtain ⟨destination, hresolve, hopen⟩ := exists_of_bind_eq_ok hopen
  have hleads := FileTree.leads_of_resolve hresolve
  rw [← Host.tree_of_takeDescriptor htaken] at hwell ⊢
  split at hopen
  · next directory name =>
    split at hopen
    · next hholds =>
      cases hopen
      have hzero := FileTree.zero_notMem_of_checkPath hcheck
      exact ⟨_, .of_missing hwell hzero hleads (of_decide_eq_true hholds) number⟩
    · cases hopen
  · cases hopen
  · cases hopen
  · next location kind =>
    cases hopen
    exact ⟨location, .of_found hwell hleads rfl hempty fun _ _ => rfl⟩
  · next location id =>
    cases hopen
    refine ⟨location, .of_found hwell hleads rfl hempty fun other hother => ?_⟩
    refine FileTree.fileContents_setContents_of_ne _ _ ?_
    rintro rfl
    exact hother rfl

end LineLog
