import LineLog.Log

/-!
# Calls on the log, one at a time

A log as its callers see it is its records, until it is removed.  A call and its
reply change this view in one step: an append adds its whole record or nothing,
and only the first removal closes the log.  A caller that panics leaves the
view as if its append had been carried out or as if it had never been called; a
removal does not panic.
-/

namespace LineLog

inductive LogCall where
  | append (record : Bytes)
  | snapshot
  | length
  | remove
  deriving DecidableEq, Repr

inductive LogReply where
  | appended
  | refused (cause : Os.Error)
  | closed
  | bytes (bytes : Bytes)
  | count (count : Nat)
  /-- The log is removed; `failure` is why its file could not be deleted. -/
  | removed (failure : Option Os.Error)
  /-- The caller panicked. -/
  | panicked
  deriving DecidableEq, Repr

/-- The records of a log that is open. -/
abbrev LogView := Option Bytes

/-- What the callers see of a log. -/
def Log.view (log : Log) : LogView :=
  log.file.map fun _ => log.bytes

/-- The effect of one call: `call.Yields reply before after` says that a call on
a log seen as `before` can be answered with `reply` and leave `after`. -/
inductive LogCall.Yields : LogCall → LogReply → LogView → LogView → Prop where
  | appended (record bytes : Bytes) :
      Yields (.append record) .appended (some bytes) (some (bytes ++ record))
  | refused (record bytes : Bytes) (cause : Os.Error) :
      Yields (.append record) (.refused cause) (some bytes) (some bytes)
  | closed (record : Bytes) : Yields (.append record) .closed none none
  | snapshot (view : LogView) : Yields .snapshot (.bytes (view.getD [])) view view
  | length (view : LogView) : Yields .length (.count (view.getD []).length) view view
  | removed (bytes : Bytes) (failure : Option Os.Error) :
      Yields .remove (.removed failure) (some bytes) none
  | removedBefore : Yields .remove (.removed none) none none
  | absent (call : LogCall) (view : LogView) (hcall : call ≠ .remove) :
      Yields call .panicked view view
  | executed (record bytes : Bytes) :
      Yields (.append record) .panicked (some bytes) (some (bytes ++ record))

end LineLog
