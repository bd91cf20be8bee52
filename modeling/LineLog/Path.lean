import LineLog.Bytes

/-!
# Paths

A path is a byte string.  Its components are the pieces between separators;
empty pieces carry no meaning except that a path which ends in a separator
names a directory.  A `Route` is a path taken apart: where it starts, the names
to follow, and whether its end has to be a directory.
-/

namespace LineLog

abbrev Path := Bytes

/-- A component of a path, or a name in a directory. -/
abbrev Name := Bytes

structure Route where
  absolute : Bool
  names : List Name
  directory : Bool
  deriving DecidableEq, Repr

namespace Path

/-- The longest path that the system accepts, with its terminator. -/
def maxLength : Nat := 4096

/-- The longest name that a directory can hold. -/
def maxName : Nat := 255

/-- The component `.`, which stays where it is. -/
def here : Name := [dot]

/-- The component `..`, which goes to the parent. -/
def up : Name := [dot, dot]

/-- The pieces between separators, empty ones included. -/
def pieces : Path → List Name
  | [] => [[]]
  | byte :: rest =>
      if byte = slash then [] :: pieces rest
      else
        match pieces rest with
        | [] => [[byte]]
        | piece :: others => (byte :: piece) :: others

def route (path : Path) : Route where
  absolute := path.head? = some slash
  names := (pieces path).filter (· ≠ [])
  directory := path.getLast? = some slash

/-- The text of a path, as error messages show it. -/
def display (path : Path) : String :=
  Bytes.lossy path

/-- The absolute path through `names`. -/
def ofNames (names : List Name) : Path :=
  if names = [] then [slash] else names.flatMap (slash :: ·)

end Path

end LineLog
