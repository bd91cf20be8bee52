import LineLog.Text.Pattern.Set

/-!
# Regular expressions

An expression is built of characters, sets, places, groups, repetitions and
alternatives.  A question mark behind an opening parenthesis makes a group
special: it may have a name, or letters that change the mode up to the end of the
group or, without a colon, of the group around it.

Only which texts are expressions is read.  An expression may not be nested too
deep, and names of groups do not repeat.
-/

namespace LineLog.Text.Pattern

/-- What stands in a group. -/
structure ExpressionItem where
  depth : Nat
  repeatable : Bool
  deriving DecidableEq, Repr

/-- What has been read of one group. -/
structure GroupLevel where
  /-- The depths of the alternatives that have ended. -/
  alternatives : List Nat
  /-- The items of the present alternative, the last one first. -/
  items : List ExpressionItem
  deriving DecidableEq, Repr

namespace GroupLevel

def opened : GroupLevel := ⟨[], []⟩

def add (item : ExpressionItem) (level : GroupLevel) : GroupLevel :=
  { level with items := item :: level.items }

/-- The depth of the present alternative. -/
def presentDepth (level : GroupLevel) : Nat :=
  sideBySide (level.items.map (·.depth))

/-- The depth of everything in the group. -/
def depth (level : GroupLevel) : Nat :=
  sideBySide (level.presentDepth :: level.alternatives)

/-- Begins the next alternative. -/
def alternate (level : GroupLevel) : GroupLevel :=
  ⟨level.presentDepth :: level.alternatives, []⟩

/-- Repeats the last item. -/
def repeat? (level : GroupLevel) : Option GroupLevel :=
  match level.items with
  | ⟨depth, true⟩ :: items => some { level with items := ⟨depth + 1, true⟩ :: items }
  | _ => none

end GroupLevel

/-- How a group begins, behind its opening parenthesis. -/
inductive GroupStart where
  | plain
  | named (name : String)
  /-- Letters and a colon: the mode changes for the group. -/
  | moded (mode : Mode)
  /-- Letters alone: the mode changes from here on, and there is no group. -/
  | change (mode : Mode)
  deriving DecidableEq, Repr

/-- Reads the name of a group up to its closing angle bracket. -/
def readGroupName? (chars : List Char) : Option (String × List Char) :=
  let name := chars.takeWhile (· ≠ '>')
  let first := name.head?.any fun char => char = '_' || isLetter char
  let others := name.all fun char => isAlphanumeric char || "_.[]".toList.contains char
  match chars.drop name.length with
  | _ :: rest => if first && others then some (String.ofList name, rest) else none
  | [] => none

/-- The letters that change the mode: each at most once, and those behind a hyphen
take something back. -/
def areModeLetters (letters : List Char) : Bool :=
  letters.all (fun char => "imsUuRx-".toList.contains char) && letters.Nodup &&
    letters.getLast? ≠ some '-'

namespace Mode

/-- The mode after letters have changed it. -/
def change (letters : List Char) (mode : Mode) : Mode :=
  let changed (letter : Char) (present : Bool) : Bool :=
    if letters.contains letter then (letters.takeWhile (· ≠ '-')).contains letter else present
  { unicode := changed 'u' mode.unicode
    anyCase := changed 'i' mode.anyCase
    spaced := changed 'x' mode.spaced }

end Mode

/-- Reads how a group begins. -/
def readGroupStart? (mode : Mode) (chars : List Char) : Option (GroupStart × List Char) :=
  match mode.skip chars with
  | '?' :: 'P' :: '<' :: rest | '?' :: '<' :: rest =>
      (readGroupName? rest).map fun (name, rest) => (.named name, rest)
  | '?' :: rest =>
      let letters := rest.takeWhile fun char => char ≠ ':' && char ≠ ')'
      if areModeLetters letters then
        match rest.drop letters.length with
        | ':' :: rest => some (.moded (mode.change letters), rest)
        | ')' :: rest => if letters = [] then none else some (.change (mode.change letters), rest)
        | _ => none
      else none
  | rest => some (.plain, rest)

/-- What has been read of an expression, with the groups around the innermost one
and the mode that holds again behind each. -/
structure ExpressionReading where
  mode : Mode
  level : GroupLevel
  outer : List (GroupLevel × Mode)
  names : List String
  deriving DecidableEq, Repr

namespace ExpressionReading

def start : ExpressionReading where
  mode := .initial
  level := .opened
  outer := []
  names := []

/-- Adds an item that can be repeated. -/
def add (depth : Nat) (reading : ExpressionReading) : ExpressionReading :=
  { reading with level := reading.level.add ⟨depth, true⟩ }

def openGroup (mode : Mode) (reading : ExpressionReading) : ExpressionReading :=
  { reading with
    mode
    level := .opened
    outer := (reading.level, reading.mode) :: reading.outer }

def beginGroup? (reading : ExpressionReading) : GroupStart → Option ExpressionReading
  | .plain => some (reading.openGroup reading.mode)
  | .moded mode => some (reading.openGroup mode)
  | .change mode => some { reading with mode, level := reading.level.add ⟨0, false⟩ }
  | .named name =>
      if reading.names.contains name then none
      else some { reading.openGroup reading.mode with names := name :: reading.names }

def closeGroup? (reading : ExpressionReading) : Option ExpressionReading :=
  match reading.outer with
  | [] => none
  | (level, mode) :: outer =>
      some ({ reading with mode, level, outer }.add (reading.level.depth + 1))

/-- Adds a character, or what an escape stands for. -/
def addEscaped? (escaped : Escaped) (reading : ExpressionReading) : Option ExpressionReading :=
  if reading.mode.allows escaped then some (reading.add 0) else none

/-- Reads on at a character.  Any byte is not available, and numbers of repetitions
are not, either. -/
def read? (reading : ExpressionReading) : List Char → Option (ExpressionReading × List Char)
  | [] => some (reading, [])
  | '(' :: rest => do
      let (start, rest) ← readGroupStart? reading.mode rest
      some (← reading.beginGroup? start, rest)
  | ')' :: rest => reading.closeGroup?.map fun reading => (reading, rest)
  | '|' :: rest => some ({ reading with level := reading.level.alternate }, rest)
  | '[' :: rest =>
      (readSet? reading.mode .opened rest).map fun (depth, rest) => (reading.add depth, rest)
  | '?' :: rest | '*' :: rest | '+' :: rest =>
      reading.level.repeat?.map fun level =>
        ({ reading with level }, if rest.head? = some '?' then rest.drop 1 else rest)
  | '\x7b' :: _ => none
  | '\\' :: rest => do
      let (escaped, rest) ← readEscape? reading.mode rest
      some (← reading.addEscaped? escaped, rest)
  | '.' :: rest => if reading.mode.unicode then some (reading.add 0, rest) else none
  | '^' :: rest | '$' :: rest => some (reading.add 0, rest)
  | char :: rest =>
      (reading.addEscaped? (.literal char false)).map fun reading => (reading, rest)

/-- Reads an expression to its end. -/
def readAll? (reading : ExpressionReading) (chars : List Char) : Option ExpressionReading :=
  match reading.read? (reading.mode.skip chars) with
  | none => none
  | some (reading, rest) =>
      if rest.length < chars.length then reading.readAll? rest
      else if rest = [] then some reading else none
termination_by chars.length

end ExpressionReading

/-- Whether a text is a regular expression. -/
def isExpression (text : List Char) : Bool :=
  (ExpressionReading.start.readAll? text).any fun reading =>
    reading.outer = [] && reading.level.depth ≤ depthLimit

end LineLog.Text.Pattern
