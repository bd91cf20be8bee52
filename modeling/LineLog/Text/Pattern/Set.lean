import LineLog.Text.Pattern.Depth
import LineLog.Text.Pattern.Escape

/-!
# Sets of characters in brackets

Brackets hold single characters, ranges, named sets and brackets again.  Two
ampersands, hyphens or tildes combine what stands on their two sides.  Behind the
opening bracket, a caret negates the set, and hyphens and then a closing bracket
stand for themselves.  Only which texts are sets is read, and how deep.
-/

namespace LineLog.Text.Pattern

/-- The sets that have a name. -/
def setNames : List String :=
  ["alnum", "alpha", "ascii", "blank", "cntrl", "digit", "graph", "lower", "print", "punct",
    "space", "upper", "word", "xdigit"]

/-- Where in its brackets the reading of a set is. -/
inductive SetPlace where
  /-- Behind the opening bracket. -/
  | opened
  /-- Where hyphens and a closing bracket stand for themselves. -/
  | leading
  | inside
  deriving DecidableEq, Repr

/-- What has been read of one pair of brackets. -/
structure SetLevel where
  place : SetPlace
  /-- The depth of what stands before the last combining mark. -/
  left : Option Nat
  /-- The depths of the items behind that mark, the last one first. -/
  items : List Nat
  deriving DecidableEq, Repr

namespace SetLevel

def opened : SetLevel := ⟨.opened, none, []⟩

def add (depth : Nat) (level : SetLevel) : SetLevel :=
  { level with items := depth :: level.items }

/-- The depth of everything between the brackets. -/
def depth (level : SetLevel) : Nat :=
  match level.left with
  | none => sideBySide level.items
  | some left => max left (sideBySide level.items) + 1

/-- Reads a combining mark. -/
def combine (level : SetLevel) : SetLevel :=
  { level with left := some level.depth, items := [] }

end SetLevel

/-- A named set behind its opening bracket: a name between colons, perhaps with a
caret in front.  Whether it is negated, and what follows it. -/
def readNamedSet? : List Char → Option (Bool × List Char)
  | ':' :: rest =>
      let negated := rest.head? = some '^'
      let rest := if negated then rest.drop 1 else rest
      let name := rest.takeWhile (· ≠ ':')
      if setNames.contains (String.ofList name) then
        match rest.drop name.length with
        | ':' :: ']' :: rest => some (negated, rest)
        | _ => none
      else none
  | _ => none

/-- Whether a named set may stand in brackets. -/
def Mode.allowsNamedSet (mode : Mode) (negated : Bool) : Bool :=
  if mode.unicode then !mode.anyCase else !negated

/-- Reads one character of a set, or an escape. -/
def readSetItem? (mode : Mode) : List Char → Option (Escaped × List Char)
  | [] => none
  | '\\' :: rest => readEscape? mode rest
  | char :: rest => some (.literal char false, rest)

/-- The character that decides whether a hyphen makes a range: the first one that
is no blank and does not open a comment, if there is one. -/
def behindHyphen? (mode : Mode) (chars : List Char) : Option Char :=
  if mode.spaced then
    let ahead := chars.dropWhile isSpace
    let ahead := if ahead.head? = some '#' then (ahead.drop 1).dropWhile isSpace else ahead
    ahead.head?.or chars.head?
  else chars.head?

/-- Reads a single item of a set or a range, and says what follows it. -/
def readRange? (mode : Mode) (chars : List Char) : Option (List Char) := do
  let (first, rest) ← readSetItem? mode chars
  let single : Option (List Char) := if mode.allowsInSet first then some rest else none
  match mode.skip rest with
  | [] => none
  | '-' :: behind =>
      if [some ']', some '-'].contains (behindHyphen? mode behind) then single
      else
        match first, ← readSetItem? mode (mode.skip behind) with
        | .literal lower lowerByte, (.literal upper upperByte, rest) =>
            if lower ≤ upper && mode.allowsInSet (.literal lower lowerByte) &&
                mode.allowsInSet (.literal upper upperByte) then some rest
            else none
        | _, _ => none
  | _ => single

/-- What has been read of a set, with the brackets around the innermost ones. -/
structure SetReading where
  level : SetLevel
  outer : List SetLevel
  deriving DecidableEq, Repr

namespace SetReading

/-- The first opening bracket has been read. -/
def opened : SetReading := ⟨.opened, []⟩

def add (depth : Nat) (reading : SetReading) : SetReading :=
  { reading with level := reading.level.add depth }

def moveTo (place : SetPlace) (reading : SetReading) : SetReading :=
  { reading with level := { reading.level with place } }

/-- How the reading of a set goes on: with the depth of the whole set once its
last bracket has been read. -/
abbrev Progress := Nat ⊕ SetReading

/-- Reads on where nothing stands for itself any more. -/
def readInside? (mode : Mode) (reading : SetReading) :
    List Char → Option (Progress × List Char)
  | [] => none
  | '[' :: rest =>
      match readNamedSet? rest with
      | some (negated, rest) =>
          if mode.allowsNamedSet negated then some (.inr (reading.add 0), rest) else none
      | none => some (.inr ⟨.opened, reading.level :: reading.outer⟩, rest)
  | ']' :: rest =>
      let depth := reading.level.depth + 1
      match reading.outer with
      | [] => some (.inl depth, rest)
      | level :: outer => some (.inr ⟨level.add depth, outer⟩, rest)
  | '&' :: '&' :: rest | '-' :: '-' :: rest | '~' :: '~' :: rest =>
      some (.inr { reading with level := reading.level.combine }, rest)
  | chars => (readRange? mode chars).map fun rest => (.inr (reading.add 0), rest)

/-- Reads on at a character.  The complement of a set of bytes is not available,
since it holds bytes that are no characters. -/
def read? (mode : Mode) (reading : SetReading) (chars : List Char) :
    Option (Progress × List Char) :=
  let itself (char : Char) (place : SetPlace) (rest : List Char) :=
    if mode.allowsInSet (.literal char false) then
      some (.inr ((reading.add 0).moveTo place), rest)
    else none
  match reading.level.place, chars with
  | .opened, '^' :: rest =>
      if mode.unicode then some (.inr (reading.moveTo .leading), rest) else none
  | .opened, '-' :: rest | .leading, '-' :: rest => itself '-' .leading rest
  | .opened, ']' :: rest | .leading, ']' :: rest =>
      if reading.level.items = [] then itself ']' .inside rest
      else (reading.moveTo .inside).readInside? mode chars
  | _, chars => (reading.moveTo .inside).readInside? mode chars

end SetReading

/-- Reads a set to its end: how deep it is and what follows it. -/
def readSet? (mode : Mode) (reading : SetReading) (chars : List Char) :
    Option (Nat × List Char) :=
  match reading.read? mode (mode.skip chars) with
  | none => none
  | some (.inl depth, rest) => some (depth, rest)
  | some (.inr reading, rest) =>
      if rest.length < chars.length then readSet? mode reading rest else none
termination_by chars.length

end LineLog.Text.Pattern
