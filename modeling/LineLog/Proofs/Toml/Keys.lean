import LineLog.Toml.Document

/-!
# Keys of a document

In a document that reads, no table has two entries of one name, at any depth.  Entries are only
added under names that are not there yet, or put in the place of an entry that is.
-/

namespace LineLog.Toml

/-- What each step keeps holds at the end. -/
theorem holds_of_foldlM {α β : Type} {step : β → α → Option β} {Good : β → Prop} {items : List α}
    {start final : β} (hfold : items.foldlM step start = some final) (hstart : Good start)
    (hstep : ∀ item ∈ items, ∀ before after, Good before → step before item = some after →
      Good after) : Good final := by
  induction items generalizing start with
  | nil =>
      obtain rfl := Option.some.inj hfold
      exact hstart
  | cons item rest ih =>
      obtain ⟨hitem, hrest⟩ := List.forall_mem_cons.mp hstep
      rw [List.foldlM_cons] at hfold
      obtain ⟨next, hnext, hfold⟩ := Option.bind_eq_some_iff.mp hfold
      exact ih hfold (hitem start next hstart hnext) hrest

/-- Where no two items have one name, an item is found by its name. -/
theorem find?_eq_some_iff_of_nodup {α : Type} {named : α → String} {items : List α} {item : α}
    {name : String} (hnodup : (items.map named).Nodup) :
    items.find? (fun item => named item = name) = some item ↔ named item = name ∧ item ∈ items := by
  refine ⟨fun hfind => ⟨by simpa using List.find?_some hfind, List.mem_of_find?_eq_some hfind⟩, ?_⟩
  rintro ⟨rfl, hmem⟩
  induction items with
  | nil => cases hmem
  | cons first rest ih =>
      obtain ⟨hnew, hnodup⟩ := List.nodup_cons.mp hnodup
      rcases List.mem_cons.mp hmem with rfl | hmem
      · exact List.find?_cons_of_pos (by simp)
      · have hother : named first ≠ named item := fun hsame =>
          hnew (hsame ▸ List.mem_map_of_mem hmem)
        rw [List.find?_cons_of_neg (by simpa using hother)]
        exact ih hnodup hmem

namespace Entries

variable {name : String} {key : Key} {value : Value} {entries : Entries}

def names (entries : Entries) : List String :=
  entries.map (·.1.name)

theorem isSome_find?_iff : (find? name entries).isSome ↔ name ∈ names entries := by
  simp [find?, names]

theorem mem_of_get? (hget : get? name entries = some value) : ∃ key, (key, value) ∈ entries := by
  obtain ⟨entry, hfind, rfl⟩ := Option.map_eq_some_iff.mp hget
  exact ⟨entry.1, List.mem_of_find?_eq_some hfind⟩

theorem get?_eq_some_iff (hnames : (names entries).Nodup) :
    get? name entries = some value ↔ ∃ key : Key, key.name = name ∧ (key, value) ∈ entries := by
  rw [get?, Option.map_eq_some_iff]
  constructor
  · rintro ⟨⟨key, value⟩, hfind, rfl⟩
    exact ⟨key, (find?_eq_some_iff_of_nodup hnames).mp hfind⟩
  · rintro ⟨key, hentry⟩
    exact ⟨(key, value), (find?_eq_some_iff_of_nodup hnames).mpr hentry, rfl⟩

theorem names_put (key : Key) (value : Value) (entries : Entries) :
    names (put key value entries) =
      if key.name ∈ names entries then names entries else names entries ++ [key.name] := by
  simp only [put, isSome_find?_iff]
  split
  · rw [names, names, List.map_map]
    refine List.map_congr_left fun entry _ => ?_
    simp only [Function.comp_apply]
    split <;> rfl
  · simp [names]

theorem mem_put {entry : Key × Value} (hmem : entry ∈ put key value entries) :
    entry.2 = value ∨ entry ∈ entries := by
  unfold put at hmem
  split at hmem
  · obtain ⟨other, hother, rfl⟩ := List.mem_map.mp hmem
    split
    · exact .inl rfl
    · exact .inr hother
  · rcases List.mem_append.mp hmem with hmem | hmem
    · exact .inr hmem
    · obtain rfl := List.mem_singleton.mp hmem
      exact .inl rfl

end Entries

/-- No table in a value has two entries of one name. -/
inductive Value.Distinct : Value → Prop where
  | string (span : Span) (text : String) : Distinct (.string span text)
  | integer (span : Span) (number : Int) : Distinct (.integer span number)
  | float (span : Span) (number : Binary64) : Distinct (.float span number)
  | boolean (span : Span) (flag : Bool) : Distinct (.boolean span flag)
  | dateTime (span : Span) (moment : DateTime) : Distinct (.dateTime span moment)
  | array (span : Span) (items : List Value) (hitems : ∀ item ∈ items, Distinct item) :
      Distinct (.array span items)
  | tables (items : List Value) (hitems : ∀ item ∈ items, Distinct item) :
      Distinct (.tables items)
  | table (kind : TableKind) (span : Option Span) (entries : Entries)
      (hnames : (Entries.names entries).Nodup)
      (hvalues : ∀ entry ∈ entries, Distinct entry.2) : Distinct (.table kind span entries)

structure Entries.Distinct (entries : Entries) : Prop where
  names : (Entries.names entries).Nodup
  values : ∀ entry ∈ entries, entry.2.Distinct

namespace Entries.Distinct

variable {name : String} {key : Key} {value : Value} {kind : TableKind} {span : Option Span}
  {entries inner : Entries} {items : List Value}

theorem nil : Entries.Distinct [] where
  names := List.nodup_nil
  values := by simp

theorem table (hinner : Entries.Distinct inner) (kind : TableKind) (span : Option Span) :
    (Value.table kind span inner).Distinct :=
  .table kind span inner hinner.names hinner.values

theorem of_table (hvalue : (Value.table kind span inner).Distinct) : Entries.Distinct inner := by
  cases hvalue with
  | table _ _ _ hnames hvalues => exact ⟨hnames, hvalues⟩

theorem get (hentries : Entries.Distinct entries) (hget : Entries.get? name entries = some value) :
    value.Distinct := by
  obtain ⟨key, hmem⟩ := Entries.mem_of_get? hget
  exact hentries.values _ hmem

theorem put (hentries : Entries.Distinct entries) (key : Key) (hvalue : value.Distinct) :
    Entries.Distinct (Entries.put key value entries) where
  names := by
    rw [names_put]
    split
    · exact hentries.names
    · next hnew =>
      refine List.nodup_append.mpr ⟨hentries.names, by simp, fun name hname other hother => ?_⟩
      obtain rfl := List.mem_singleton.mp hother
      exact fun hsame => hnew (hsame ▸ hname)
  values entry hmem := by
    rcases mem_put hmem with rfl | hold
    · exact hvalue
    · exact hentries.values entry hold

theorem add? {after : Entries} (hentries : Entries.Distinct entries) (hvalue : value.Distinct)
    (hadd : Entries.add? key value entries = some after) : Entries.Distinct after := by
  obtain ⟨hnew, hadd⟩ := Option.ite_none_left_eq_some.mp hadd
  have hput : Entries.put key value entries = entries ++ [(key, value)] := if_neg hnew
  obtain rfl := Option.some.inj hadd
  rw [← hput]
  exact hentries.put key hvalue

theorem remove (hentries : Entries.Distinct entries) (name : String) :
    Entries.Distinct (Entries.remove name entries) where
  names := hentries.names.sublist ((List.filter_sublist (l := entries)).map _)
  values entry hmem := hentries.values entry (List.mem_filter.mp hmem).1

end Entries.Distinct

namespace Value.Distinct

variable {value : Value} {items : List Value}

theorem of_tables (hitems : (Value.tables items).Distinct) : ∀ item ∈ items, item.Distinct := by
  cases hitems with
  | tables _ hitems => exact hitems

theorem getLast (hitems : (Value.tables items).Distinct) (hlast : items.getLast? = some value) :
    value.Distinct :=
  hitems.of_tables value (List.mem_of_getLast? hlast)

theorem append (hitems : (Value.tables items).Distinct) (hvalue : value.Distinct) :
    (Value.tables (items ++ [value])).Distinct := by
  refine .tables _ fun item hmem => ?_
  rcases List.mem_append.mp hmem with hmem | hmem
  · exact hitems.of_tables item hmem
  · obtain rfl := List.mem_singleton.mp hmem
    exact hvalue

/-- Changing the last of several tables of one name. -/
theorem setLast (hitems : (Value.tables items).Distinct) (hvalue : value.Distinct) :
    (Value.tables (items.dropLast ++ [value])).Distinct :=
  .append (.tables _ fun item hmem =>
    hitems.of_tables item ((List.dropLast_sublist items).subset hmem)) hvalue

end Value.Distinct

/-! ## Statements -/

variable {key : Key} {value : Value} {entries after : Entries} {path : List Key}

theorem Entries.Distinct.assign {top dotted : Bool} (hentries : Entries.Distinct entries)
    (hvalue : value.Distinct)
    (hassign : Toml.assign top dotted key value entries path = some after) :
    Entries.Distinct after := by
  induction path generalizing top dotted entries after with
  | nil =>
      obtain ⟨-, hadd⟩ := Option.ite_none_left_eq_some.mp hassign
      exact hentries.add? hvalue hadd
  | cons first rest ih =>
      unfold Toml.assign at hassign
      split at hassign
      · obtain ⟨inner, hinner, hput⟩ := Option.bind_eq_some_iff.mp hassign
        obtain rfl := Option.some.inj hput
        exact hentries.put first ((ih .nil hinner).table .dotted none)
      · next span inner hget =>
        obtain ⟨inner, hinner, hput⟩ := Option.bind_eq_some_iff.mp hassign
        obtain rfl := Option.some.inj hput
        exact hentries.put first ((ih (.of_table (hentries.get hget)) hinner).table .dotted span)
      · next span inner hget =>
        obtain ⟨inner, hinner, hput⟩ := Option.bind_eq_some_iff.mp hassign
        obtain rfl := Option.some.inj hput
        exact hentries.put first ((ih (.of_table (hentries.get hget)) hinner).table .implied span)
      · next items hget =>
        split at hassign
        · next kind span inner hlast =>
          obtain ⟨inner, hinner, hput⟩ := Option.bind_eq_some_iff.mp hassign
          obtain rfl := Option.some.inj hput
          have hitems := hentries.get hget
          exact hentries.put first (hitems.setLast
            ((ih (.of_table (hitems.getLast hlast)) hinner).table kind span))
        · cases hassign
      · cases hassign

/-- What is true of all tables without repeated names and is changed in one of them. -/
def Keeps {α : Type} (Found : α → Prop) (change : Entries → Option (α × Entries)) : Prop :=
  ∀ entries found after, Entries.Distinct entries → change entries = some (found, after) →
    Found found ∧ Entries.Distinct after

theorem Keeps.changeAt {α : Type} {Found : α → Prop} {change : Entries → Option (α × Entries)}
    (hkeeps : Keeps Found change) (path : List Key) :
    Keeps Found fun entries => Toml.changeAt change entries path := by
  induction path with
  | nil => exact hkeeps
  | cons first rest ih =>
      intro entries found after hentries hchange
      dsimp only at hchange
      unfold Toml.changeAt at hchange
      -- the way goes on in a new table, in the last one of several, or in one of the right kind
      split at hchange
      · obtain ⟨⟨result, inner⟩, hinner, hput⟩ := Option.bind_eq_some_iff.mp hchange
        obtain ⟨rfl, rfl⟩ := Prod.mk.inj (Option.some.inj hput)
        obtain ⟨hfound, hafter⟩ := ih [] result inner .nil hinner
        exact ⟨hfound, hentries.put first (hafter.table .implied none)⟩
      · next items hget =>
        split at hchange
        · next kind span old hlast =>
          obtain ⟨⟨result, inner⟩, hinner, hput⟩ := Option.bind_eq_some_iff.mp hchange
          obtain ⟨rfl, rfl⟩ := Prod.mk.inj (Option.some.inj hput)
          have hitems := hentries.get hget
          obtain ⟨hfound, hafter⟩ := ih old result inner (.of_table (hitems.getLast hlast)) hinner
          exact ⟨hfound, hentries.put first (hitems.setLast (hafter.table kind span))⟩
        · cases hchange
      · next kind span old hget =>
        have hold := Entries.Distinct.of_table (hentries.get hget)
        have put_back (hchange : ((Toml.changeAt change old rest).bind fun changed =>
            some (changed.1, Entries.put first (.table kind span changed.2) entries)) =
              some (found, after)) : Found found ∧ Entries.Distinct after := by
          obtain ⟨⟨result, inner⟩, hinner, hput⟩ := Option.bind_eq_some_iff.mp hchange
          obtain ⟨rfl, rfl⟩ := Prod.mk.inj (Option.some.inj hput)
          obtain ⟨hfound, hafter⟩ := ih old result inner hold hinner
          exact ⟨hfound, hentries.put first (hafter.table kind span)⟩
        cases kind with
        | headed | implied | dotted => exact put_back hchange
        | inline | inlineDotted => cases hchange
      · cases hchange

/-- Neither the tables that are closed nor the open one have two entries of one name. -/
structure Draft.Distinct (draft : Draft) : Prop where
  root : Entries.Distinct draft.root
  current : ∀ table, draft.current = some table → Entries.Distinct table.entries

def Statement.Distinct : Statement → Prop
  | .assign _ _ value => value.Distinct
  | .header _ _ _ _ => True

namespace Draft

variable {draft after : Draft} {statement : Statement} {span : Span}

theorem distinct_empty : Draft.empty.Distinct where
  root := .nil
  current := nofun

theorem Distinct.close (hdraft : draft.Distinct) (hclose : draft.close = some after) :
    after.Distinct := by
  unfold Draft.close at hclose
  split at hclose
  · obtain rfl := Option.some.inj hclose
    exact hdraft
  · next table hcurrent =>
    have htable := hdraft.current table hcurrent
    obtain ⟨⟨⟨⟩, root⟩, hroot, hafter⟩ := Option.bind_eq_some_iff.mp hclose
    obtain rfl := Option.some.inj hafter
    suffices hkeeps : Keeps (fun _ => True) _ from
      ⟨(hkeeps.changeAt _ _ _ _ hdraft.root hroot).2, nofun⟩
    intro entries found changed hentries hchange
    dsimp only at hchange
    split at hchange
    · cases hchange
      exact ⟨trivial, hentries.put _ (htable.table .headed _)⟩
    · next items hget hrepeated =>
      cases hchange
      exact ⟨trivial, hentries.put _ ((hentries.get hget).append (htable.table .headed _))⟩
    · cases hchange

theorem Distinct.openTable (hdraft : draft.Distinct)
    (hopen : draft.openTable path key span = some after) : after.Distinct := by
  obtain ⟨⟨inner, root⟩, hroot, hafter⟩ := Option.bind_eq_some_iff.mp hopen
  obtain rfl := Option.some.inj hafter
  suffices hkeeps : Keeps Entries.Distinct _ by
    obtain ⟨hinner, hroot⟩ := hkeeps.changeAt _ _ _ _ hdraft.root hroot
    refine ⟨hroot, fun table htable => ?_⟩
    obtain rfl := Option.some.inj htable
    exact hinner
  intro entries found changed hentries hchange
  dsimp only at hchange
  split at hchange
  · cases hchange
    exact ⟨.nil, hentries⟩
  · next hget =>
    cases hchange
    exact ⟨.of_table (hentries.get hget), hentries.remove _⟩
  · cases hchange

theorem Distinct.openRepeated (hdraft : draft.Distinct)
    (hopen : draft.openRepeated path key span = some after) : after.Distinct := by
  obtain ⟨⟨⟨⟩, root⟩, hroot, hafter⟩ := Option.bind_eq_some_iff.mp hopen
  obtain rfl := Option.some.inj hafter
  suffices hkeeps : Keeps (fun _ => True) _ by
    refine ⟨(hkeeps.changeAt _ _ _ _ hdraft.root hroot).2, fun table htable => ?_⟩
    obtain rfl := Option.some.inj htable
    exact .nil
  intro entries found changed hentries hchange
  dsimp only at hchange
  split at hchange
  · cases hchange
    exact ⟨trivial, hentries.put _ (.tables [] nofun)⟩
  · cases hchange
    exact ⟨trivial, hentries⟩
  · cases hchange

theorem Distinct.add (hdraft : draft.Distinct) (hstatement : statement.Distinct)
    (hadd : draft.add statement = some after) : after.Distinct := by
  cases statement with
  | assign path key value =>
      dsimp only [Draft.add] at hadd
      split at hadd
      · next hcurrent =>
        obtain ⟨root, hroot, hafter⟩ := Option.bind_eq_some_iff.mp hadd
        obtain rfl := Option.some.inj hafter
        exact ⟨hdraft.root.assign hstatement hroot, hdraft.current⟩
      · next table hcurrent =>
        obtain ⟨entries, hentries, hafter⟩ := Option.bind_eq_some_iff.mp hadd
        obtain rfl := Option.some.inj hafter
        refine ⟨hdraft.root, fun changed hchanged => ?_⟩
        obtain rfl := Option.some.inj hchanged
        exact (hdraft.current table hcurrent).assign hstatement hentries
  | header repeated path key span =>
      obtain ⟨closed, hclose, hopen⟩ := Option.bind_eq_some_iff.mp hadd
      cases repeated with
      | false => exact (hdraft.close hclose).openTable hopen
      | true => exact (hdraft.close hclose).openRepeated hopen

end Draft

theorem distinct_of_entriesOf? {statements : List Statement}
    (hstatements : ∀ statement ∈ statements, statement.Distinct)
    (hentries : entriesOf? statements = some entries) : Entries.Distinct entries := by
  obtain ⟨draft, hdraft, hclose⟩ := Option.bind_eq_some_iff.mp hentries
  obtain ⟨closed, hclosed, hroot⟩ := Option.bind_eq_some_iff.mp hclose
  obtain rfl := Option.some.inj hroot
  have hadded := holds_of_foldlM hdraft Draft.distinct_empty
    fun statement hmem _ _ hbefore hadd => hbefore.add (hstatements statement hmem) hadd
  exact (hadded.close hclosed).root

end LineLog.Toml
