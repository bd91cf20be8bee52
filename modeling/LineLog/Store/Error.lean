import LineLog.Log
import LineLog.Path

/-!
# Errors of the store

Every error names the path that it is about, and the error of the operating
system that caused it is its only source.
-/

namespace LineLog

inductive StoreError where
  | create (path : Path) (cause : Os.Error)
  | write (path : Path) (cause : Os.Error)
  | remove (path : Path) (cause : Os.Error)
  | closed
  deriving DecidableEq, Repr

namespace StoreError

/-- The failure of an append to the log at `path`. -/
def ofAppend (path : Path) : AppendFailure → StoreError
  | .closed => .closed
  | .write cause _ => .write path cause

def message : StoreError → String
  | create path cause => s!"Failed to create store '{path.display}': {cause.message}"
  | write path cause => s!"Failed to append to store '{path.display}': {cause.message}"
  | remove path cause => s!"Failed to remove store '{path.display}': {cause.message}"
  | closed => "Store has been removed"

/-- The messages of the causes, the nearest first. -/
def sources : StoreError → List String
  | create _ cause | write _ cause | remove _ cause => [cause.message]
  | closed => []

end StoreError

end LineLog
