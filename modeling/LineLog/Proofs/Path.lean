import LineLog.Path

/-!
# Names in paths

A path is taken apart into names without separators.  The absolute path through names that entries
can have is taken apart into just these names.
-/

namespace LineLog.Path

variable {name : Name} {names : List Name} {path rest : Path}

/-- What can stand between two separators of a path. -/
structure Piece (name : Name) : Prop where
  nonempty : name ≠ []
  noSlash : slash ∉ name
  noZero : 0 ∉ name

structure FileName (name : Name) : Prop extends Piece name where
  ne_here : name ≠ here
  ne_up : name ≠ up
  length_le : name.length ≤ maxName

theorem of_mem_pieces (hmem : name ∈ pieces path) : slash ∉ name ∧ ∀ byte ∈ name, byte ∈ path := by
  induction path generalizing name with
  | nil =>
      obtain rfl : name = [] := by simpa [pieces] using hmem
      simp
  | cons first rest ih =>
      unfold pieces at hmem
      split at hmem
      · rcases List.mem_cons.mp hmem with rfl | hmem
        · simp
        · exact ⟨(ih hmem).1, fun byte hbyte => List.mem_cons_of_mem _ ((ih hmem).2 byte hbyte)⟩
      · next hfirst =>
        have hgrown {piece : Name} (hpiece : slash ∉ piece ∧ ∀ byte ∈ piece, byte ∈ rest) :
            slash ∉ first :: piece ∧ ∀ byte ∈ first :: piece, byte ∈ first :: rest := by
          refine ⟨fun hslash => ?_, fun byte hbyte => ?_⟩
          · rcases List.mem_cons.mp hslash with hslash | hslash
            · exact hfirst hslash.symm
            · exact hpiece.1 hslash
          · rcases List.mem_cons.mp hbyte with rfl | hbyte
            · exact List.mem_cons_self
            · exact List.mem_cons_of_mem _ (hpiece.2 byte hbyte)
        split at hmem
        · obtain rfl := List.mem_singleton.mp hmem
          exact hgrown ⟨by simp, by simp⟩
        · next piece others hrest =>
          rcases List.mem_cons.mp hmem with rfl | hmem
          · exact hgrown (ih (hrest ▸ List.mem_cons_self))
          · have hothers := ih (hrest ▸ List.mem_cons_of_mem piece hmem)
            exact ⟨hothers.1, fun byte hbyte => List.mem_cons_of_mem _ (hothers.2 byte hbyte)⟩

theorem piece_of_mem_route (hzero : 0 ∉ path) (hmem : name ∈ (route path).names) : Piece name := by
  obtain ⟨hmem, hnonempty⟩ := List.mem_filter.mp hmem
  obtain ⟨hslash, hbytes⟩ := of_mem_pieces hmem
  exact ⟨by simpa using hnonempty, hslash, fun hbyte => hzero (hbytes 0 hbyte)⟩

theorem pieces_append_slash (hslash : slash ∉ name) :
    pieces (name ++ slash :: rest) = name :: pieces rest := by
  induction name with
  | nil => simp [pieces]
  | cons byte name ih =>
      obtain ⟨hbyte, hname⟩ := not_or.mp (mt List.mem_cons.mpr hslash)
      simp [pieces, ih hname, Ne.symm hbyte]

theorem pieces_of_noSlash (hslash : slash ∉ name) : pieces name = [name] := by
  induction name with
  | nil => rfl
  | cons byte name ih =>
      obtain ⟨hbyte, hname⟩ := not_or.mp (mt List.mem_cons.mpr hslash)
      simp [pieces, ih hname, Ne.symm hbyte]

theorem pieces_flatMap (hnames : ∀ name ∈ names, slash ∉ name) :
    pieces (names.flatMap (slash :: ·)) = [] :: names := by
  induction names with
  | nil => rfl
  | cons name others ih =>
      obtain ⟨hname, hothers⟩ := List.forall_mem_cons.mp hnames
      rw [List.flatMap_cons, List.cons_append, pieces, if_pos rfl]
      cases others with
      | nil => rw [List.flatMap_nil, List.append_nil, pieces_of_noSlash hname]
      | cons next others =>
          have hrest := ih hothers
          rw [List.flatMap_cons, List.cons_append, pieces, if_pos rfl] at hrest
          rw [List.flatMap_cons, List.cons_append, pieces_append_slash hname,
            (List.cons.inj hrest).2]

theorem getLast?_ofNames (hbelow : names ≠ []) (hnames : ∀ name ∈ names, Piece name) :
    (ofNames names).getLast? ≠ some slash := by
  have hlast := hnames _ (List.getLast_mem hbelow)
  have hsplit : ofNames names = names.dropLast.flatMap (slash :: ·) ++
      slash :: names.getLast hbelow := by
    calc ofNames names
      _ = names.flatMap (slash :: ·) := if_neg hbelow
      _ = (names.dropLast ++ [names.getLast hbelow]).flatMap (slash :: ·) := by
          rw [List.dropLast_concat_getLast hbelow]
      _ = _ := by rw [List.flatMap_append, List.flatMap_singleton]
  have hend : (ofNames names).getLast? = some ((names.getLast hbelow).getLast hlast.nonempty) := by
    rw [hsplit, List.getLast?_append, List.getLast?_cons,
      List.getLast?_eq_some_getLast hlast.nonempty]
    rfl
  rw [hend]
  intro hslash
  exact hlast.noSlash (Option.some.inj hslash ▸ List.getLast_mem hlast.nonempty)

theorem head?_ofNames (names : List Name) : (ofNames names).head? = some slash := by
  cases names <;> rfl

theorem route_ofNames (hbelow : names ≠ []) (hnames : ∀ name ∈ names, Piece name) :
    route (ofNames names) = ⟨true, names, false⟩ := by
  have hpieces : pieces (ofNames names) = [] :: names := by
    rw [ofNames, if_neg hbelow]
    exact pieces_flatMap fun name hmem => (hnames name hmem).noSlash
  have hfilter : names.filter (· ≠ []) = names :=
    List.filter_eq_self.mpr fun name hmem => by simpa using (hnames name hmem).nonempty
  simp only [route, hpieces, head?_ofNames, getLast?_ofNames hbelow hnames, List.filter_cons,
    hfilter]
  rfl

end LineLog.Path
