import LineLog.Number.Shortest
import LineLog.Text.Quoted
import LineLog.Toml.Value

/-!
# Reading typed values

A value is read as what is expected in its place.  If it is of another kind or
out of range, the mismatch says what was found and what was expected, and points
to the value, or to its key if the value stands nowhere.  A group of settings is
read from a table by keys, or from an array by position; what is missing keeps
its initial value, and keys that nobody knows are ignored.
-/

namespace LineLog.Toml

structure Mismatch where
  message : String
  span : Option Span
  deriving DecidableEq, Repr

/-- A value as messages name it. -/
def Value.describe : Value → String
  | .string _ text => "string " ++ Text.quoted text
  | .integer _ number => s!"integer `{number}`"
  | .float _ number => "floating point `" ++ number.text ++ "`"
  | .boolean _ flag => s!"boolean `{flag}`"
  | .dateTime _ _ => "map"
  | .array _ _ => "sequence"
  | .tables _ => "sequence"
  | .table _ _ _ => "map"

abbrev Reader (α : Type) := Value → Except Mismatch α

def wrongType {α : Type} (expected : String) (value : Value) : Except Mismatch α :=
  .error ⟨"invalid type: " ++ value.describe ++ ", expected " ++ expected, value.span?⟩

def outOfRange {α : Type} (expected : String) (value : Value) : Except Mismatch α :=
  .error ⟨"invalid value: " ++ value.describe ++ ", expected " ++ expected, value.span?⟩

def readText (expected : String) : Reader String
  | .string _ text => .ok text
  | value => wrongType expected value

/-- Reads an integer between the bounds, both included. -/
def readInteger (expected : String) (low high : Int) : Reader Int
  | .integer span number =>
      if low ≤ number && number ≤ high then .ok number
      else outOfRange expected (.integer span number)
  | value => wrongType expected value

def readBoolean : Reader Bool
  | .boolean _ flag => .ok flag
  | value => wrongType "a boolean" value

/-- A setting of a group: its key and how its value is taken over. -/
structure Field (α : Type) where
  key : String
  take : Value → α → Except Mismatch α

/-- A group of settings and what it is called in messages. -/
structure Shape (α : Type) where
  title : String
  fields : List (Field α)

/-- A mismatch that points nowhere points to the key. -/
def atKey {α : Type} (key : Key) (result : Except Mismatch α) : Except Mismatch α :=
  result.mapError fun mismatch =>
    { mismatch with span := mismatch.span.orElse fun _ => some key.span }

/-- Takes over one entry of a table. -/
def Shape.takeEntry {α : Type} (shape : Shape α) (settings : α) (entry : Key × Value) :
    Except Mismatch α :=
  match shape.fields.find? (·.key = entry.1.name) with
  | some field => atKey entry.1 (field.take entry.2 settings)
  | none => .ok settings

/-- Takes over the entries of a table in their order. -/
def Shape.takeEntries {α : Type} (shape : Shape α) (settings : α) (entries : Entries) :
    Except Mismatch α :=
  List.foldlM shape.takeEntry settings entries

/-- Takes over the items of an array, the first for the first field and so on. -/
def Shape.takeItems {α : Type} (shape : Shape α) (settings : α) (items : List Value) :
    Except Mismatch α :=
  (shape.fields.zip items).foldlM (fun settings (field, item) => field.take item settings)
    settings

def Shape.read {α : Type} (shape : Shape α) (initial : α) : Reader α
  | .table _ _ entries => shape.takeEntries initial entries
  | .array _ items => shape.takeItems initial items
  | .tables items => shape.takeItems initial items
  | .dateTime _ _ => .ok initial
  | value => wrongType ("struct " ++ shape.title) value

end LineLog.Toml
