import LineLog.Log
import LineLog.Proofs.OpenFile

/-!
# Appending to a log

An append ends in one of three ways, which its result tells apart: the record is
added to the memory, the system refused it and the memory is as before, or the
log is closed and nothing is touched.  Only closing makes a log closed.

A log is mirrored if its file holds exactly what is in memory and is written next
behind it.  An append keeps a log mirrored, whether it succeeds or not, unless
the file cannot be cut back.
-/

namespace LineLog.Log

def addedBy (record : Bytes) : Except AppendFailure Unit → Bytes
  | .ok () => record
  | .error _ => []

inductive Appended (record : Bytes) (log : Log) : Log × Except AppendFailure Unit → Prop where
  | added (file after : OpenFile) (hopen : log.file = some file) :
      Appended record log ({ bytes := log.bytes ++ record, file := some after }, .ok ())
  | refused (file after : OpenFile) (hopen : log.file = some file) (cause : Os.Error)
      (rollback : Option Os.Error) :
      Appended record log ({ log with file := some after }, .error (.write cause rollback))
  | closed (hclosed : log.file = none) : Appended record log (log, .error .closed)

variable (obstacles : Obstacles) (record : Bytes) (log : Log)

theorem appended_append : Appended record log (log.append obstacles record) := by
  unfold append
  split
  · next hclosed => exact .closed hclosed
  · next file hopen =>
    split
    · next after _ => exact .added file after hopen
    · next cut cause _ =>
      split
      · next after _ => exact .refused file after hopen cause none
      · next after rollback _ => exact .refused file after hopen cause (some rollback)

@[simp]
theorem bytes_append :
    (log.append obstacles record).1.bytes =
      log.bytes ++ addedBy record (log.append obstacles record).2 := by
  have happended := appended_append obstacles record log
  generalize log.append obstacles record = outcome at happended ⊢
  cases happended with
  | added => rfl
  | refused | closed => exact (List.append_nil _).symm

@[simp]
theorem isSome_file_append :
    (log.append obstacles record).1.file.isSome = log.file.isSome := by
  have happended := appended_append obstacles record log
  generalize log.append obstacles record = outcome at happended ⊢
  cases happended with
  | added file after hopen | refused file after hopen => exact hopen ▸ rfl
  | closed => rfl

/-- An append is told that the log is closed exactly if it is. -/
theorem append_eq_closed_iff :
    (log.append obstacles record).2 = .error .closed ↔ log.file = none := by
  have happended := appended_append obstacles record log
  generalize log.append obstacles record = outcome at happended ⊢
  cases happended with
  | added file after hopen | refused file after hopen => simp [hopen]
  | closed hclosed => simp [hclosed]

theorem append_of_closed (hclosed : log.file = none) :
    log.append obstacles record = (log, .error .closed) := by
  simp only [append, hclosed]

/-- Nothing but obstacles keeps a record out of an open log. -/
theorem append_none {log : Log} (hopen : log.file.isSome) :
    (log.append .none record).2 = .ok () := by
  obtain ⟨file, hfile⟩ := Option.isSome_iff_exists.mp hopen
  have hwritten (file : OpenFile) : (file.writeAll [] record).2 = .ok () := by
    cases record <;> rfl
  unfold append
  simp only [hfile, Obstacles.none]
  split
  · rfl
  · next hfailed =>
    have hok := hwritten file
    rw [hfailed] at hok
    cases hok

/-- An append that succeeds finds the log open. -/
theorem isSome_file_of_append_ok (hok : (log.append obstacles record).2 = .ok ()) :
    log.file.isSome := by
  cases hopen : log.file with
  | some file => rfl
  | none =>
      rw [append_of_closed obstacles record log hopen] at hok
      cases hok

@[simp]
theorem file_close : log.close.1.file = none := by
  unfold close
  split
  · assumption
  · rfl

theorem bytes_close (hopen : log.file.isSome) : log.close.1.bytes = [] := by
  unfold close
  split
  · next hclosed =>
    rw [hclosed] at hopen
    cases hopen
  · rfl

/-- The file holds exactly what is in memory, and the next write goes behind it. -/
def Mirrored (log : Log) : Prop :=
  ∃ file, log.file = some file ∧ file.EndsWith log.bytes

variable {obstacles record log}

theorem Mirrored.append (hmirrored : log.Mirrored)
    (hrollback : ∀ file, obstacles.truncate file = ⟨none, none⟩) :
    (log.append obstacles record).1.Mirrored := by
  obtain ⟨file, hopen, hends⟩ := hmirrored
  obtain ⟨written, -, hwritten, hall⟩ := hends.writeAll obstacles.answers record
  unfold Log.append
  simp only [hopen, hrollback]
  split
  · next after hresult =>
    rw [hresult] at hwritten hall
    exact ⟨after, rfl, hall rfl ▸ hwritten⟩
  · next cut cause hresult =>
    rw [hresult] at hwritten
    exact ⟨_, rfl, hwritten.truncateTo⟩

end LineLog.Log
