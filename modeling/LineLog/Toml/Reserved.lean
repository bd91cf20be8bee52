import LineLog.Toml.Scalars

/-!
# Tables that stand for a moment

One key is reserved.  A table whose first key it is stands for a date and a time
of day, and the entry has to be the text of them; what else is in that table does
not count.  The text is read more freely than a moment in the document: it may
give the hour as 24, and an offset may have any digits up to a whole day.  A
document is sound if all of its tables keep to this.
-/

namespace LineLog.Toml

open LineLog.Toml.Parser

/-- The first key of a table that stands for a moment. -/
def reservedKey : String := "$__toml_private_datetime"

/-- An offset of at most a day. -/
def offsetWithinDay : Parser Int := do
  let minutes ← offsetUpTo 99 99
  if minutes.natAbs ≤ 24 * 60 then pure minutes else fail

/-- Whether a text is a date, a time of day, or both. -/
def isMomentText (text : String) : Bool :=
  ((momentOf (timeUpTo 24) offsetWithinDay <* atEnd) ⟨0, text.toList⟩).isSome

/-- Whether a value can be the entry of the reserved key. -/
def Value.isMoment : Value → Bool
  | .string _ text => isMomentText text
  | _ => false

mutual

/-- Whether every table in a value that stands for a moment holds the text of
one. -/
def Value.isSound : Value → Bool
  | .array _ items | .tables items => areSoundItems items
  | .table _ _ ((key, value) :: rest) =>
      if key.name = reservedKey then value.isMoment
      else value.isSound && areSoundEntries rest
  | _ => true

def areSoundItems : List Value → Bool
  | [] => true
  | value :: rest => value.isSound && areSoundItems rest

def areSoundEntries : List (Key × Value) → Bool
  | [] => true
  | (_, value) :: rest => value.isSound && areSoundEntries rest

end

end LineLog.Toml
