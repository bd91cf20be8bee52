import LineLog.FileTree.Resolve
import LineLog.Proofs.Host
import LineLog.Proofs.Path

/-!
# Walks through a tree

A walk that succeeds goes from directory to directory, follows links, and ends at an entry or at a
name that the last directory does not have.  What is true of walks is shown by following one step
by step.
-/

namespace LineLog.FileTree

/-- A name that stands for an entry, and is not the last one of a path that names a directory to
create. -/
structure Enters (purpose : Purpose) (name : Name) (rest : List Name) (directory : Bool) :
    Prop where
  ne_here : name ≠ Path.here
  ne_up : name ≠ Path.up
  length_le : name.length ≤ Path.maxName
  allowed : (rest = [] && purpose.create && directory) = false

/-- The steps of a walk that succeeds. -/
inductive Leads (tree : FileTree) (purpose : Purpose) :
    Nat → Location → List Name → Bool → Destination → Prop where
  | arrived (links : Nat) (here : Location) (directory : Bool) :
      Leads tree purpose links here [] directory (.found here .directory)
  | stays {links : Nat} {here : Location} {rest : List Name} {directory : Bool}
      {destination : Destination}
      (hrest : Leads tree purpose links here rest directory destination) :
      Leads tree purpose links here (Path.here :: rest) directory destination
  | rises {links : Nat} {here : Location} {rest : List Name} {directory : Bool}
      {destination : Destination}
      (hrest : Leads tree purpose links here.dropLast rest directory destination) :
      Leads tree purpose links here (Path.up :: rest) directory destination
  | missing {links : Nat} {here : Location} {name : Name} {directory : Bool}
      (henters : Enters purpose name [] directory) (hnode : tree.node? (here ++ [name]) = none) :
      Leads tree purpose links here [name] directory (.missing here name)
  | enters {links : Nat} {here : Location} {name : Name} {rest : List Name} {directory : Bool}
      {destination : Destination} (henters : Enters purpose name rest directory)
      (hnode : tree.node? (here ++ [name]) = some .directory)
      (hrest : Leads tree purpose links (here ++ [name]) rest directory destination) :
      Leads tree purpose links here (name :: rest) directory destination
  | link {links : Nat} {here : Location} {name : Name} {target : Path}
      (henters : Enters purpose name [] false) (hfollow : purpose.follow = false)
      (hnode : tree.node? (here ++ [name]) = some (.link target)) :
      Leads tree purpose links here [name] false (.found (here ++ [name]) (.link target))
  | follows {links : Nat} {here : Location} {name : Name} {rest : List Name} {directory : Bool}
      {destination : Destination} {target : Path} (henters : Enters purpose name rest directory)
      (hfollow : (rest = [] && !purpose.follow && !directory) = false)
      (hnode : tree.node? (here ++ [name]) = some (.link target))
      (hrest : Leads tree purpose links (if (Path.route target).absolute then [] else here)
        ((Path.route target).names ++ rest)
        (directory || (rest = [] && (Path.route target).directory)) destination) :
      Leads tree purpose (links + 1) here (name :: rest) directory destination
  | entry {links : Nat} {here : Location} {name : Name} {node : Node}
      (henters : Enters purpose name [] false) (hdirectory : node ≠ .directory)
      (hlink : ∀ target, node ≠ .link target) (hnode : tree.node? (here ++ [name]) = some node) :
      Leads tree purpose links here [name] false (.found (here ++ [name]) node)

variable {tree : FileTree} {purpose : Purpose} {links : Nat} {here location : Location}
  {names : List Name} {directory : Bool} {name : Name} {node : Node} {destination : Destination}

theorem enters_of_passed {rest : List Name} (hhere : name ≠ Path.here) (hup : name ≠ Path.up)
    (hallowed : ¬ (rest = [] && purpose.create && directory) = true)
    (hlength : ¬ Path.maxName < name.length) : Enters purpose name rest directory :=
  ⟨hhere, hup, Nat.not_lt.mp hlength, Bool.eq_false_iff.mpr hallowed⟩

theorem leads_of_walk
    (hwalk : walk tree purpose links here names directory = .ok destination) :
    Leads tree purpose links here names directory destination := by
  -- each way through the walk that is not an error is a step of its own
  fun_induction walk tree purpose links here names directory with
  | case1 links here directory =>
      obtain rfl := Except.ok.inj hwalk
      exact .arrived links here directory
  | case2 links here directory rest ih => exact .stays (ih hwalk)
  | case3 links here directory rest hhere ih => exact .rises (ih hwalk)
  | case6 links here directory name hhere hup hlength hnode hallowed =>
      obtain rfl := Except.ok.inj hwalk
      exact .missing (enters_of_passed hhere hup hallowed hlength) hnode
  | case8 links here directory name rest hhere hup hallowed hlength hnode ih =>
      exact .enters (enters_of_passed hhere hup hallowed hlength) hnode (ih hwalk)
  | case9 links here directory name rest hhere hup hallowed hlength target hnode hlast =>
      obtain rfl := Except.ok.inj hwalk
      simp only [Bool.and_eq_true, Bool.not_eq_true', decide_eq_true_eq] at hlast
      obtain ⟨⟨rfl, hfollow⟩, rfl⟩ := hlast
      exact .link (enters_of_passed hhere hup hallowed hlength) hfollow hnode
  | case11 here directory name rest hhere hup hallowed hlength target hnode hlast links route ih =>
      exact .follows (enters_of_passed hhere hup hallowed hlength) (Bool.eq_false_iff.mpr hlast)
        hnode (ih hwalk)
  | case12 links here directory name rest hhere hup hallowed hlength node hdirectory hlink hnode
      hlast =>
      obtain rfl := Except.ok.inj hwalk
      simp only [Bool.and_eq_true, Bool.not_eq_true', decide_eq_true_eq] at hlast
      obtain ⟨rfl, rfl⟩ := hlast
      exact .entry (enters_of_passed hhere hup hallowed hlength) hdirectory hlink hnode
  | case4 | case5 | case7 | case10 | case13 => cases hwalk

/-- A step of a walk that looks at an entry. -/
theorem walk_cons {rest : List Name} (henters : Enters purpose name rest directory) :
    walk tree purpose links here (name :: rest) directory =
      match tree.node? (here ++ [name]) with
      | none => if rest = [] then .ok (.missing here name) else .error Os.Error.noSuchFile
      | some .directory => walk tree purpose links (here ++ [name]) rest directory
      | some (.link target) =>
          if rest = [] && !purpose.follow && !directory then
            .ok (.found (here ++ [name]) (.link target))
          else
            match links with
            | 0 => .error Os.Error.tooManyLinks
            | links + 1 =>
                walk tree purpose links (if (Path.route target).absolute then [] else here)
                  ((Path.route target).names ++ rest)
                  (directory || (rest = [] && (Path.route target).directory))
      | some node =>
          if rest = [] && !directory then .ok (.found (here ++ [name]) node)
          else .error Os.Error.notDirectory := by
  have hallowed : ¬ (rest = [] && purpose.create && directory) = true :=
    Bool.eq_false_iff.mp henters.allowed
  have hlength : ¬ Path.maxName < name.length := Nat.not_lt.mpr henters.length_le
  rw [walk]
  exact (if_neg henters.ne_here).trans <| (if_neg henters.ne_up).trans <|
    (if_neg hallowed).trans (if_neg hlength)

theorem walk_of_leads (hleads : Leads tree purpose links here names directory destination) :
    walk tree purpose links here names directory = .ok destination := by
  induction hleads with
  | arrived => rw [walk]
  | stays _ ih => rw [walk, if_pos rfl, ih]
  | rises _ ih => rw [walk, if_neg (by decide), if_pos rfl, ih]
  | missing henters hnode =>
      rw [walk_cons henters, hnode]
      exact if_pos rfl
  | enters henters hnode _ ih => rw [walk_cons henters, hnode, ih]
  | link henters hfollow hnode =>
      rw [walk_cons henters, hnode]
      exact if_pos (by simp [hfollow])
  | follows henters hfollow hnode _ ih =>
      rw [walk_cons henters, hnode]
      dsimp only
      rw [if_neg (Bool.eq_false_iff.mp hfollow), ih]
  | @entry links here name node henters hdirectory hlink hnode =>
      rw [walk_cons henters, hnode]
      cases node with
      | directory => exact absurd rfl hdirectory
      | link target => exact absurd rfl (hlink target)
      | file | device => exact if_pos rfl

/-! ## Where a walk ends -/

/-- What a walk finds is an entry of the tree, or the directory that it is in. -/
theorem Leads.node?_eq
    (hleads : Leads tree purpose links here names directory (.found location node)) :
    node = .directory ∨ tree.node? location = some node := by
  generalize hfound : Destination.found location node = destination at hleads
  induction hleads with
  | arrived =>
      cases hfound
      exact .inl rfl
  | stays _ ih | rises _ ih | enters _ _ _ ih | follows _ _ _ _ ih => exact ih hfound
  | missing => cases hfound
  | link _ _ hnode | entry _ _ _ hnode =>
      cases hfound
      exact .inr hnode

/-- What can be reached in order to be created can be reached as well. -/
theorem Leads.of_create {follow : Bool}
    (hleads : Leads tree ⟨follow, true⟩ links here names directory destination) :
    Leads tree ⟨follow, false⟩ links here names directory destination := by
  have hkept {name : Name} {rest : List Name} {directory : Bool}
      (henters : Enters ⟨follow, true⟩ name rest directory) :
      Enters ⟨follow, false⟩ name rest directory :=
    ⟨henters.ne_here, henters.ne_up, henters.length_le, by simp⟩
  induction hleads with
  | arrived links here directory => exact .arrived links here directory
  | stays _ ih => exact .stays ih
  | rises _ ih => exact .rises ih
  | missing henters hnode => exact .missing (hkept henters) hnode
  | enters henters hnode _ ih => exact .enters (hkept henters) hnode ih
  | link henters hfollow hnode => exact .link (hkept henters) hfollow hnode
  | follows henters hfollow hnode _ ih => exact .follows (hkept henters) hfollow hnode ih
  | entry henters hdirectory hlink hnode => exact .entry (hkept henters) hdirectory hlink hnode

theorem Leads.node?_eq_none
    (hleads : Leads tree purpose links here names directory (.missing location name)) :
    tree.node? (location ++ [name]) = none := by
  generalize hmissing : Destination.missing location name = destination at hleads
  induction hleads with
  | arrived | link | entry => cases hmissing
  | stays _ ih | rises _ ih | enters _ _ _ ih | follows _ _ _ _ ih => exact ih hmissing
  | missing _ hnode =>
      cases hmissing
      exact hnode

/-- What is found is still found when nothing on the way has changed. -/
theorem Leads.mono {after : FileTree}
    (hleads : Leads tree purpose links here names directory (.found location node))
    (hkept : ∀ other found, tree.node? other = some found → after.node? other = some found) :
    Leads after purpose links here names directory (.found location node) := by
  generalize hfound : Destination.found location node = destination at hleads
  induction hleads with
  | arrived links here directory =>
      cases hfound
      exact .arrived ..
  | stays _ ih => exact .stays (ih hfound)
  | rises _ ih => exact .rises (ih hfound)
  | missing => cases hfound
  | enters henters hnode _ ih => exact .enters henters (hkept _ _ hnode) (ih hfound)
  | link henters hfollow hnode =>
      cases hfound
      exact .link henters hfollow (hkept _ _ hnode)
  | follows henters hfollow hnode _ ih =>
      exact .follows henters hfollow (hkept _ _ hnode) (ih hfound)
  | entry henters hdirectory hlink hnode =>
      cases hfound
      exact .entry henters hdirectory hlink (hkept _ _ hnode)

/-- Once the missing entry has been made, the same walk finds it. -/
theorem Leads.found_of_missing {after : FileTree} {follow : Bool}
    (hleads : Leads tree ⟨follow, true⟩ links here names directory (.missing location name))
    (hother : ∀ other, other ≠ location ++ [name] → after.node? other = tree.node? other)
    (hnode : after.node? (location ++ [name]) = some node) (hdirectory : node ≠ .directory)
    (hlink : ∀ target, node ≠ .link target) :
    Leads after ⟨follow, true⟩ links here names directory (.found (location ++ [name]) node) := by
  have hnone := hleads.node?_eq_none
  -- nothing stood where the new entry is, so what the walk has met is as it was
  have hkept {other : Location} {found : Node} (hfound : tree.node? other = some found) :
      after.node? other = some found := by
    rw [hother other fun heq => ?_, hfound]
    rw [heq, hnone] at hfound
    cases hfound
  generalize hmissing : Destination.missing location name = destination at hleads
  induction hleads with
  | arrived | link | entry => cases hmissing
  | stays _ ih => exact .stays (ih hmissing)
  | rises _ ih => exact .rises (ih hmissing)
  | enters henters hnext _ ih => exact .enters henters (hkept hnext) (ih hmissing)
  | follows henters hfollow hnext _ ih =>
      exact .follows henters hfollow (hkept hnext) (ih hmissing)
  | missing henters _ =>
      cases hmissing
      obtain rfl := by simpa using henters.allowed
      exact .entry henters hdirectory hlink hnode

/-! ## Trees of directories -/

/-- Every entry is in a directory and has a name that entries can have, and links hold paths. -/
structure WellFormed (tree : FileTree) : Prop where
  parents : ∀ location name node, tree.node? (location ++ [name]) = some node →
    tree.node? location = some .directory
  names : ∀ location name node, tree.node? (location ++ [name]) = some node → Path.FileName name
  targets : ∀ location target, tree.node? location = some (.link target) → 0 ∉ target

theorem mem_of_node? (hbelow : location ≠ []) (hnode : tree.node? location = some node) :
    (location, node) ∈ tree.nodes := by
  rw [node?, if_neg hbelow, List.lookup_eq_some_iff] at hnode
  obtain ⟨before, after, hnodes, -⟩ := hnode
  simp [hnodes]

theorem wellFormed_of_forall (hentries : ∀ entry ∈ tree.nodes, ∃ front name,
    entry.1 = front ++ [name] ∧ tree.node? front = some .directory ∧ Path.FileName name ∧
      ∀ target, entry.2 = .link target → 0 ∉ target) : tree.WellFormed := by
  have hentry (location : Location) (name : Name) (node : Node)
      (hnode : tree.node? (location ++ [name]) = some node) :
      tree.node? location = some .directory ∧ Path.FileName name := by
    obtain ⟨front, last, hsplit, hfront, hlast, -⟩ :=
      hentries _ (mem_of_node? (by simp) hnode)
    obtain ⟨rfl, rfl⟩ := List.append_singleton_inj.mp hsplit
    exact ⟨hfront, hlast⟩
  refine ⟨fun location name node hnode => (hentry location name node hnode).1,
    fun location name node hnode => (hentry location name node hnode).2,
    fun location target hnode => ?_⟩
  by_cases hbelow : location = []
  · rw [hbelow] at hnode
    cases hnode
  · obtain ⟨-, -, -, -, -, htarget⟩ := hentries _ (mem_of_node? hbelow hnode)
    exact htarget target rfl

namespace WellFormed

variable {front : Location}

theorem directory_of_prefix (hwell : tree.WellFormed) (hnode : tree.node? location = some node)
    (hfront : front <+: location) (hne : front ≠ location) :
    tree.node? front = some .directory := by
  induction location using List.reverseRecOn generalizing node with
  | nil => exact absurd (List.prefix_nil.mp hfront) hne
  | append_singleton before name ih =>
      have hbefore := hwell.parents before name node hnode
      rcases List.prefix_concat_iff.mp hfront with rfl | hfront
      · exact absurd rfl hne
      · by_cases hlast : front = before
        · rw [hlast, hbefore]
        · exact ih hbefore hfront hlast

theorem fileName_of_mem (hwell : tree.WellFormed) (hnode : tree.node? location = some node)
    (hname : name ∈ location) : Path.FileName name := by
  induction location using List.reverseRecOn generalizing node with
  | nil => cases hname
  | append_singleton before last ih =>
      rcases List.mem_append.mp hname with hname | hname
      · exact ih (hwell.parents before last node hnode) hname
      · obtain rfl := List.mem_singleton.mp hname
        exact hwell.names before name node hnode

/-- A walk ends at a missing name only if an entry can have it. -/
theorem fileName_of_missing (hwell : tree.WellFormed)
    (hleads : Leads tree purpose links here names directory (.missing location name))
    (hnames : ∀ name ∈ names, Path.Piece name) : Path.FileName name := by
  generalize hmissing : Destination.missing location name = destination at hleads
  induction hleads with
  | arrived | link | entry => cases hmissing
  | stays _ ih | rises _ ih | enters _ _ _ ih =>
      exact ih (List.forall_mem_cons.mp hnames).2 hmissing
  | follows _ _ hnode _ ih =>
      refine ih (fun name hname => ?_) hmissing
      rcases List.mem_append.mp hname with hname | hname
      · exact Path.piece_of_mem_route (hwell.targets _ _ hnode) hname
      · exact hnames name (List.mem_cons_of_mem _ hname)
  | missing henters _ =>
      cases hmissing
      exact ⟨hnames name (List.mem_singleton_self _), henters.ne_here, henters.ne_up,
        henters.length_le⟩

end WellFormed

/-- A way may begin along directories. -/
theorem Leads.along {rest : List Name} (hnames : ∀ name ∈ names, Path.FileName name)
    (hdirectories : ∀ front, front <+: names → front ≠ [] →
      tree.node? (here ++ front) = some .directory)
    (hrest : Leads tree ⟨true, false⟩ links (here ++ names) rest directory destination) :
    Leads tree ⟨true, false⟩ links here (names ++ rest) directory destination := by
  induction names generalizing here with
  | nil => simpa using hrest
  | cons first others ih =>
      obtain ⟨hfirst, hothers⟩ := List.forall_mem_cons.mp hnames
      have henters : Enters ⟨true, false⟩ first (others ++ rest) directory :=
        ⟨hfirst.ne_here, hfirst.ne_up, hfirst.length_le, by simp⟩
      refine .enters henters (hdirectories [first] ⟨others, rfl⟩ (by simp)) (ih hothers ?_ ?_)
      · intro front hfront _
        rw [List.append_assoc]
        exact hdirectories ([first] ++ front) ((List.prefix_append_right_inj [first]).mpr hfront)
          (by simp)
      · simpa using hrest

end LineLog.FileTree
