import LineLog.Proofs.FileTree.Walk

/-!
# Paths and where they lead

Resolving a path is a walk from the root or from the current directory.  The absolute path to a
place that is reached along directories leads there from everywhere, as long as it is not too long.
-/

namespace LineLog.FileTree

variable {tree : FileTree} {current location front : Location} {name : Name} {node : Node}
  {path resolved : Path}

theorem leads_of_resolve {purpose : Purpose} {destination : Destination}
    (hresolve : tree.resolve current purpose path = .ok destination) :
    Leads tree purpose maxLinks (if (Path.route path).absolute then [] else current)
      (Path.route path).names (Path.route path).directory destination := by
  obtain ⟨⟨⟩, -, hwalk⟩ := exists_of_bind_eq_ok hresolve
  exact leads_of_walk hwalk

theorem zero_notMem_of_checkPath (hcheck : checkPath path = .ok ()) : 0 ∉ path := by
  unfold checkPath at hcheck
  split at hcheck
  · cases hcheck
  · next hzero => simpa using hzero

theorem leads_of_find (hfind : tree.find current path = .ok (location, node)) :
    Leads tree ⟨true, false⟩ maxLinks (if (Path.route path).absolute then [] else current)
      (Path.route path).names (Path.route path).directory (.found location node) := by
  obtain ⟨destination, hresolve, hrest⟩ := exists_of_bind_eq_ok hfind
  split at hrest
  · cases hrest
    exact leads_of_resolve hresolve
  · cases hrest

theorem exists_find_of_canonicalize
    (hcanonical : tree.canonicalize current path = .ok resolved) :
    ∃ location node, tree.find current path = .ok (location, node) ∧
      resolved = Path.ofNames location ∧ resolved.length < Path.maxLength := by
  obtain ⟨⟨location, node⟩, hfind, hrest⟩ := exists_of_bind_eq_ok hcanonical
  dsimp only at hrest
  split at hrest
  · cases hrest
  · split at hrest
    · cases hrest
    · next hlength =>
      cases hrest
      exact ⟨location, node, hfind, rfl, Nat.not_le.mp hlength⟩

/-! ## Absolute paths without links -/

/-- The absolute path to a place goes along directories and is not too long. -/
structure Reaches (tree : FileTree) (front : Location) (name : Name) : Prop where
  names : ∀ other ∈ front ++ [name], Path.FileName other
  directories : ∀ other, other <+: front → tree.node? other = some .directory
  length_lt : (Path.ofNames (front ++ [name])).length < Path.maxLength

theorem Reaches.checkPath (hreaches : tree.Reaches front name) :
    FileTree.checkPath (Path.ofNames (front ++ [name])) = .ok () := by
  have hpath : Path.ofNames (front ++ [name]) = (front ++ [name]).flatMap (slash :: ·) :=
    if_neg (by simp)
  have hzero : 0 ∉ Path.ofNames (front ++ [name]) := by
    rw [hpath]
    intro hmem
    obtain ⟨other, hother, hmem⟩ := List.mem_flatMap.mp hmem
    rcases List.mem_cons.mp hmem with hslash | hmem
    · cases hslash
    · exact (hreaches.names other hother).noZero hmem
  have hnonempty : Path.ofNames (front ++ [name]) ≠ [] := by
    rw [hpath]
    simp
  unfold FileTree.checkPath
  rw [if_neg (by simpa using hzero), if_neg hnonempty, if_neg (Nat.not_le.mpr hreaches.length_lt)]

theorem Reaches.route (hreaches : tree.Reaches front name) :
    Path.route (Path.ofNames (front ++ [name])) = ⟨true, front ++ [name], false⟩ :=
  Path.route_ofNames (by simp) fun other hother => (hreaches.names other hother).toPiece

theorem Reaches.walk_eq {rest : List Name} {links : Nat} {directory : Bool}
    {destination : Destination} (hreaches : tree.Reaches front name)
    (hrest : Leads tree ⟨true, false⟩ links front rest directory destination) :
    tree.walk ⟨true, false⟩ links [] (front ++ rest) directory = .ok destination :=
  walk_of_leads (.along (fun other hother => hreaches.names other (List.mem_append_left _ hother))
    (fun other hother _ => hreaches.directories other hother) hrest)

theorem Reaches.find_eq (hreaches : tree.Reaches front name)
    (hnode : tree.node? (front ++ [name]) = some node) (hdirectory : node ≠ .directory)
    (hlink : ∀ target, node ≠ .link target) (current : Location) :
    tree.find current (Path.ofNames (front ++ [name])) = .ok (front ++ [name], node) := by
  have hname := hreaches.names name (by simp)
  have henters : Enters ⟨true, false⟩ name [] false :=
    ⟨hname.ne_here, hname.ne_up, hname.length_le, rfl⟩
  have hwalk : tree.walk ⟨true, false⟩ maxLinks [] (front ++ [name]) false = _ :=
    hreaches.walk_eq (.entry henters hdirectory hlink hnode)
  have hresolve : tree.resolve current ⟨true, false⟩ (Path.ofNames (front ++ [name])) =
      .ok (.found (front ++ [name]) node) := by
    unfold resolve
    rw [hreaches.checkPath, hreaches.route]
    exact hwalk
  unfold find
  rw [hresolve]
  rfl

theorem Reaches.place_eq (hreaches : tree.Reaches front name) (current : Location) :
    tree.place current (Path.ofNames (front ++ [name])) = .ok (some ⟨front, name, false⟩) := by
  have hname := hreaches.names name (by simp)
  have hwalk : tree.walk ⟨true, false⟩ maxLinks [] (front ++ []) true = _ :=
    hreaches.walk_eq (.arrived maxLinks front true)
  rw [List.append_nil] at hwalk
  unfold place
  rw [hreaches.checkPath, hreaches.route]
  change (tree.walk _ _ [] (front ++ [name]).dropLast true >>= _) = _
  rw [List.dropLast_concat, hwalk, List.getLast?_concat]
  change (if name = Path.here || name = Path.up then _ else _) = _
  rw [if_neg (by simp [hname.ne_here, hname.ne_up]), if_neg (Nat.not_lt.mpr hname.length_le)]

end LineLog.FileTree
