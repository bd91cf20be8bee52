import LineLog.Toml.Statement

/-!
# From statements to a document

The statements of a document build one tree of tables.  A header begins a table
that is put into the tree when the next one begins; assignments in between go
into it.  A key or a table can be defined once.  A table that exists only
because of headers below it may still get its own, and then counts as written
there.  A dotted key may add only to tables that have no header of their own.
-/

namespace LineLog.Toml

/-- Assigns a value in a table, through the tables that its dotted key names.
`top` says that the key has no dots, and `dotted` that the table at hand was
brought about by one. -/
def assign (top dotted : Bool) (key : Key) (value : Value) (entries : Entries) :
    List Key → Option Entries
  | [] => if dotted = top then none else Entries.add? key value entries
  | first :: rest =>
      match Entries.get? first.name entries with
      | none => do
          let inner ← assign false true key value [] rest
          some (Entries.put first (.table .dotted none inner) entries)
      | some (.table .dotted span inner) => do
          let inner ← assign false true key value inner rest
          some (Entries.put first (.table .dotted span inner) entries)
      | some (.table .implied span inner) => do
          let inner ← assign false false key value inner rest
          some (Entries.put first (.table .implied span inner) entries)
      | some (.tables items) =>
          match items.getLast? with
          | some (.table kind span inner) => do
              let inner ← assign false false key value inner rest
              some (Entries.put first (.tables (items.dropLast ++ [.table kind span inner]))
                entries)
          | _ => none
      | some _ => none

/-- Changes the entries of the table that the names of a header lead to.  Tables
on the way that are missing come about, and of repeated tables the last counts. -/
def changeAt {α : Type} (change : Entries → Option (α × Entries)) (entries : Entries) :
    List Key → Option (α × Entries)
  | [] => change entries
  | first :: rest =>
      match Entries.get? first.name entries with
      | none => do
          let (result, inner) ← changeAt change [] rest
          some (result, Entries.put first (.table .implied none inner) entries)
      | some (.tables items) =>
          match items.getLast? with
          | some (.table kind span inner) => do
              let (result, inner) ← changeAt change inner rest
              some (result, Entries.put first
                (.tables (items.dropLast ++ [.table kind span inner])) entries)
          | _ => none
      | some (.table kind span inner) =>
          match kind with
          | .headed | .implied | .dotted => do
              let (result, inner) ← changeAt change inner rest
              some (result, Entries.put first (.table kind span inner) entries)
          | .inline | .inlineDotted => none
      | some _ => none

/-- The table that assignments go into at present, and where it belongs. -/
structure OpenTable where
  repeated : Bool
  path : List Key
  key : Key
  span : Span
  entries : Entries

def OpenTable.value (table : OpenTable) : Value :=
  .table .headed (some table.span) table.entries

/-- A document that is being built; before the first header the assignments go
into the root. -/
structure Draft where
  root : Entries
  current : Option OpenTable

namespace Draft

def empty : Draft where
  root := []
  current := none

/-- Puts the open table where it belongs. -/
def close (draft : Draft) : Option Draft :=
  match draft.current with
  | none => some draft
  | some table => do
      let change (entries : Entries) : Option (Unit × Entries) :=
        match Entries.get? table.key.name entries, table.repeated with
        | none, false => some ((), Entries.put table.key table.value entries)
        | some (.tables items), true =>
            some ((), Entries.put table.key (.tables (items ++ [table.value])) entries)
        | _, _ => none
      let ((), root) ← changeAt change draft.root table.path
      some { root, current := none }

/-- Begins the table under a header.  A table that was only implied so far keeps
its entries and leaves its place. -/
def openTable (path : List Key) (key : Key) (span : Span) (draft : Draft) : Option Draft := do
  let change (entries : Entries) : Option (Entries × Entries) :=
    match Entries.get? key.name entries with
    | none => some ([], entries)
    | some (.table .implied _ inner) => some (inner, Entries.remove key.name entries)
    | some _ => none
  let (inner, root) ← changeAt change draft.root path
  some { root, current := some ⟨false, path, key, span, inner⟩ }

/-- Begins the next of several tables of one name. -/
def openRepeated (path : List Key) (key : Key) (span : Span) (draft : Draft) :
    Option Draft := do
  let change (entries : Entries) : Option (Unit × Entries) :=
    match Entries.get? key.name entries with
    | none => some ((), Entries.put key (.tables []) entries)
    | some (.tables _) => some ((), entries)
    | some _ => none
  let ((), root) ← changeAt change draft.root path
  some { root, current := some ⟨true, path, key, span, []⟩ }

/-- The open table reaches to the end of the last value in it. -/
def stretch (value : Value) (span : Span) : Span :=
  match value.span? with
  | some inner => ⟨span.start, inner.finish⟩
  | none => span

def add (draft : Draft) : Statement → Option Draft
  | .assign path key value =>
      match draft.current with
      | none => do
          let root ← assign path.isEmpty false key value draft.root path
          some { draft with root }
      | some table => do
          let entries ← assign path.isEmpty false key value table.entries path
          some { draft with
            current := some { table with entries, span := stretch value table.span } }
  | .header repeated path key span => do
      let draft ← draft.close
      if repeated then draft.openRepeated path key span else draft.openTable path key span

end Draft

/-- The entries of the document that the statements describe. -/
def entriesOf? (statements : List Statement) : Option Entries := do
  let draft ← statements.foldlM Draft.add Draft.empty
  (← draft.close).root

/-- Reads the text of a document. -/
def parse? (text : String) : Option Entries := do
  let (statements, _) ← document ⟨0, text.toList⟩
  entriesOf? statements

end LineLog.Toml
