import LineLog.Number.Binary64

/-!
# Documents of settings

A document is a table of keys and values in the order in which they were first
written.  Values and keys remember where in the text they stand, as byte
offsets, so that a value of the wrong kind can be pointed at.  Tables remember
how they came about, because that decides what may be added to them later.
-/

namespace LineLog.Toml

/-- A range of the text, from the first byte up to but not including the last. -/
structure Span where
  start : Nat
  finish : Nat
  deriving DecidableEq, Repr

structure Key where
  name : String
  span : Span
  deriving DecidableEq, Repr

structure DateOf where
  year : Nat
  month : Nat
  day : Nat
  deriving DecidableEq, Repr

structure TimeOf where
  hour : Nat
  minute : Nat
  second : Nat
  /-- The decimal digits of the fraction of a second. -/
  fraction : List Char
  deriving DecidableEq, Repr

/-- A date, a time of day, or both with an optional offset in minutes. -/
inductive DateTime where
  | date (date : DateOf)
  | time (time : TimeOf)
  | both (date : DateOf) (time : TimeOf) (offset : Option Int)
  deriving DecidableEq, Repr

/-- How a table came about. -/
inductive TableKind where
  /-- Under a header of its own. -/
  | headed
  /-- On the way to the header of a table below it. -/
  | implied
  /-- By a dotted key. -/
  | dotted
  /-- Between braces. -/
  | inline
  /-- By a dotted key between braces. -/
  | inlineDotted
  deriving DecidableEq, Repr

inductive Value where
  | string (span : Span) (text : String)
  | integer (span : Span) (number : Int)
  | float (span : Span) (number : Binary64)
  | boolean (span : Span) (flag : Bool)
  | dateTime (span : Span) (moment : DateTime)
  | array (span : Span) (items : List Value)
  /-- The tables under repeated headers of one name. -/
  | tables (items : List Value)
  | table (kind : TableKind) (span : Option Span) (entries : List (Key × Value))

abbrev Entries := List (Key × Value)

namespace Value

/-- Where a value stands.  The tables that dotted keys and deeper headers bring
about stand nowhere. -/
def span? : Value → Option Span
  | string span _ | integer span _ | float span _ | boolean span _ | dateTime span _
  | array span _ => some span
  | tables items =>
      match items.head?, items.getLast? with
      | some (table _ (some first) _), some (table _ (some last) _) =>
          some ⟨first.start, last.finish⟩
      | _, _ => none
  | table _ span _ => span

end Value

namespace Entries

def find? (name : String) (entries : Entries) : Option (Key × Value) :=
  List.find? (fun entry => entry.1.name = name) entries

def get? (name : String) (entries : Entries) : Option Value :=
  (find? name entries).map (·.2)

/-- Puts a value behind a key, in its place if the key is there already. -/
def put (key : Key) (value : Value) (entries : Entries) : Entries :=
  if (find? key.name entries).isSome then
    List.map (fun entry => if entry.1.name = key.name then (entry.1, value) else entry) entries
  else entries ++ [(key, value)]

def remove (name : String) (entries : Entries) : Entries :=
  List.filter (fun entry => entry.1.name ≠ name) entries

/-- Adds an entry whose key is not there yet. -/
def add? (key : Key) (value : Value) (entries : Entries) : Option Entries :=
  if (find? key.name entries).isSome then none else some (entries ++ [(key, value)])

end Entries

end LineLog.Toml
