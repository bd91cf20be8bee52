/-!
# How a task ends

The task of a thread ends by returning or by panicking.
-/

namespace LineLog

inductive Ending where
  | returned
  | panicked
  deriving DecidableEq, Repr

end LineLog
