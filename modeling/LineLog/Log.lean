import LineLog.OpenFile

/-!
# The shared log

The log is held twice: in memory, and in a backing file until the log is
removed.  Appending a record writes it to the file first and extends the
memory only after the whole record is written.  After a failed write the file
is cut back to the length of the memory, so that the next record continues
directly behind the last whole one.  Cutting back may fail too; that keeps the
record out all the same, and the failure of the append tells of both.
-/

namespace LineLog

structure Log where
  bytes : Bytes
  file : Option OpenFile
  deriving DecidableEq, Repr

/-- How the system meets one append: its answers to the writes, and what keeps
the file from being cut back should a write fail. -/
structure Obstacles where
  answers : List WriteAnswer
  truncate : OpenFile → OpenFile.TruncateFaults

inductive AppendFailure where
  | closed
  /-- The record could not be written; `rollback` is what kept the file from
  being cut back, if anything did. -/
  | write (cause : Os.Error) (rollback : Option Os.Error)
  deriving DecidableEq, Repr

namespace Obstacles

/-- The system takes every write whole. -/
def none : Obstacles where
  answers := []
  truncate _ := ⟨.none, .none⟩

end Obstacles

namespace Log

/-- A new log over a file that has just been emptied. -/
def empty : Log where
  bytes := []
  file := some .empty

def append (obstacles : Obstacles) (record : Bytes) (log : Log) :
    Log × Except AppendFailure Unit :=
  match log.file with
  | none => (log, .error .closed)
  | some file =>
      match file.writeAll obstacles.answers record with
      | (file, .ok ()) =>
          ({ bytes := log.bytes ++ record, file := some file }, .ok ())
      | (file, .error cause) =>
          match file.truncateTo (obstacles.truncate file) log.bytes.length with
          | (file, .ok ()) => ({ log with file := some file }, .error (.write cause none))
          | (file, .error rollback) =>
              ({ log with file := some file }, .error (.write cause (some rollback)))

/-- A copy of every record appended so far. -/
def snapshot (log : Log) : Bytes :=
  log.bytes

def length (log : Log) : Nat :=
  log.bytes.length

/-- Closes the file and forgets the records.  The answer says whether the log
was still open, so only the first call answers `true`. -/
def close (log : Log) : Log × Bool :=
  match log.file with
  | none => (log, false)
  | some _ => ({ bytes := [], file := none }, true)

end Log

end LineLog
