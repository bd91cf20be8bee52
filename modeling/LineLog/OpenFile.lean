import LineLog.FileContents
import LineLog.Os.Error

/-!
# An open file: contents and write position

A file that is open for writing is its contents together with the position of
the next write.  Writing replaces the bytes at the position and moves it behind
them; a gap between the end of the contents and the position reads as zero
bytes.  The system may take a write in any number of pieces and may refuse it
at any point, also before the first byte, so a whole write is driven by the
list of its answers.  A write at the end appends.
-/

namespace LineLog

structure OpenFile where
  contents : FileContents
  position : Nat
  deriving DecidableEq, Repr

/-- The answer of the system to one request to write. -/
inductive WriteAnswer where
  | accepted (count : Nat)
  | interrupted
  | refused (error : Os.Error)
  deriving DecidableEq, Repr

namespace OpenFile

/-- Nothing has been written. -/
def empty : OpenFile where
  contents := .empty
  position := 0

/-- What is read from the file. -/
def toBytes (file : OpenFile) : Bytes :=
  file.contents.toBytes

def write (bytes : Bytes) (file : OpenFile) : OpenFile :=
  if bytes = [] then file
  else
    { contents := file.contents.overwrite file.position bytes
      position := file.position + bytes.length }

def setLength (length : Nat) (file : OpenFile) : OpenFile :=
  { file with contents := file.contents.resize length }

def seek (position : Nat) (file : OpenFile) : OpenFile :=
  { file with position }

/-- Writes all of `bytes`, one system call for each answer.  An interrupted call
is repeated; a call that accepts nothing fails.  Once the answers are used up
the system takes whatever is left. -/
def writeAll (answers : List WriteAnswer) (bytes : Bytes) (file : OpenFile) :
    OpenFile × Except Os.Error Unit :=
  match bytes, answers with
  | [], _ => (file, .ok ())
  | bytes, [] => (file.write bytes, .ok ())
  | bytes, .interrupted :: answers => writeAll answers bytes file
  | _, .refused error :: _ => (file, .error error)
  | _, .accepted 0 :: _ => (file, .error Os.Error.writeZero)
  | bytes, .accepted (count + 1) :: answers =>
      writeAll answers (bytes.drop (count + 1)) (file.write (bytes.take (count + 1)))
termination_by structural answers

/-- What keeps a file from being cut back: nothing for `none`. -/
structure TruncateFaults where
  setLength : Option Os.Error
  seek : Option Os.Error
  deriving DecidableEq, Repr

/-- Sets the length and moves the write position there, so that the next write
continues at the new end. -/
def truncateTo (faults : TruncateFaults) (length : Nat) (file : OpenFile) :
    OpenFile × Except Os.Error Unit :=
  match faults.setLength, faults.seek with
  | some error, _ => (file, .error error)
  | none, some error => (file.setLength length, .error error)
  | none, none => ((file.setLength length).seek length, .ok ())

@[simp]
theorem position_write (bytes : Bytes) (file : OpenFile) :
    (file.write bytes).position = file.position + bytes.length := by
  by_cases h : bytes = [] <;> simp [write, h]

/-- Writing at the end of the contents appends. -/
theorem toBytes_write_at_end (bytes : Bytes) (file : OpenFile)
    (hend : file.position = file.contents.length) :
    (file.write bytes).toBytes = file.toBytes ++ bytes := by
  by_cases h : bytes = []
  · simp [write, h]
  · simp only [write, h, toBytes, hend, FileContents.toBytes_overwrite_length, if_false]

end OpenFile

end LineLog
