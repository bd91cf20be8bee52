/-!
# How deep expressions are nested

The parts of an expression are counted by how many constructions stand around
the innermost one.  Parts that stand side by side make a construction only if
there are several.
-/

namespace LineLog.Text.Pattern

/-- The largest depth. -/
def deepest (depths : List Nat) : Nat :=
  depths.foldl max 0

/-- The depth of parts that stand side by side. -/
def sideBySide : List Nat → Nat
  | [] => 0
  | [depth] => depth
  | depths => deepest depths + 1

/-- How deep an expression may be nested. -/
def depthLimit : Nat := 250

end LineLog.Text.Pattern
