import LineLog.Proofs.Log.Undone

/-!
# What a failed rollback cannot reach

A failed append whose rollback fails too leaves the file of a log in disorder: there may be
bytes behind the records, and the write position need not be where the memory ends.  From
then on file, position and memory go their own ways, but none of them goes back behind the
place where the memory ended before.  What stood in front of that place is safe from every
append and every rollback that follows.  A rollback that succeeds puts the end of the file
and the write position where the memory ends.
-/

namespace LineLog.Log

/-- The memory begins with `front`, and so does the file, which is written behind it. -/
structure Keeps (front : Bytes) (log : Log) : Prop where
  prefix_bytes : front <+: log.bytes
  beginsWith : ∀ file, log.file = some file → file.BeginsWith front

variable {obstacles : Obstacles} {record front : Bytes} {log : Log}

theorem Mirrored.inStep (hmirrored : log.Mirrored) : log.InStep := by
  obtain ⟨file, hopen, hends⟩ := hmirrored
  intro other hother
  obtain rfl := Option.some.inj (hopen.symm.trans hother)
  exact hends

/-- A mirrored log keeps all of its records. -/
theorem Mirrored.keeps (hmirrored : log.Mirrored) : log.Keeps log.bytes where
  prefix_bytes := List.prefix_refl _
  beginsWith file hopen := (hmirrored.inStep file hopen).beginsWith

/-- Whatever the system does, an append leaves alone what a log keeps. -/
theorem Keeps.append (hkeeps : log.Keeps front) (obstacles : Obstacles) (record : Bytes) :
    (log.append obstacles record).1.Keeps front := by
  have hlength : front.length ≤ log.bytes.length := hkeeps.prefix_bytes.length_le
  refine ⟨?_, ?_⟩
  · rw [bytes_append]
    exact hkeeps.prefix_bytes.trans (List.prefix_append _ _)
  · unfold Log.append
    split
    · exact hkeeps.beginsWith
    · next file hopen =>
      have hwritten := (hkeeps.beginsWith file hopen).writeAll obstacles.answers record
      split
      · next after hresult =>
        rw [hresult] at hwritten
        intro other hother
        exact Option.some.inj hother ▸ hwritten
      · next cut cause hresult =>
        rw [hresult] at hwritten
        -- the memory reaches behind the front, so the file is not cut within it
        have hcut := hwritten.truncateTo hlength (obstacles.truncate cut)
        split
        · next back hback =>
          rw [hback] at hcut
          intro other hother
          exact Option.some.inj hother ▸ hcut
        · next back rollback hback =>
          rw [hback] at hcut
          intro other hother
          exact Option.some.inj hother ▸ hcut

/-- An append whose rollback does not fail keeps a log mirrored. -/
theorem Mirrored.append_of_undone (hmirrored : log.Mirrored)
    (hundone : ∀ failure, (log.append obstacles record).2 = .error failure → failure.isUndone) :
    (log.append obstacles record).1.Mirrored := by
  obtain ⟨file, hopen, -⟩ := id hmirrored
  have hsome : (log.append obstacles record).1.file.isSome := by
    rw [isSome_file_append, hopen]
    rfl
  obtain ⟨after, hafter⟩ := Option.isSome_iff_exists.mp hsome
  refine ⟨after, hafter, ?_⟩
  cases hresult : (log.append obstacles record).2 with
  | ok => exact hmirrored.inStep.append hresult after hafter
  | error failure =>
      have hsame := hmirrored.inStep.sameAs_append hresult (hundone failure hresult)
      have hends := hmirrored.inStep file hopen
      have htoBytes : some after.toBytes = some file.toBytes := by
        simpa only [hopen, hafter, Option.map_some] using hsame.toBytes_eq
      have hposition : some after.position = some file.position := by
        simpa only [hopen, hafter, Option.map_some] using hsame.position_eq
      refine ⟨?_, ?_⟩
      · rw [Option.some.inj htoBytes, hsame.bytes_eq, hends.toBytes_eq]
      · rw [Option.some.inj hposition, hsame.bytes_eq, hends.position_eq]

/-- After a rollback that succeeds the file ends, and is written, where the memory ends. -/
theorem exists_file_of_rolledBack {cause : Os.Error}
    (hfailed : (log.append obstacles record).2 = .error (.write cause none)) :
    ∃ file, (log.append obstacles record).1.file = some file ∧
      file.contents.length = log.bytes.length ∧ file.position = log.bytes.length := by
  unfold Log.append at hfailed ⊢
  split
  · next hclosed =>
    simp only [hclosed] at hfailed
    cases hfailed
  · next file hopen =>
    simp only [hopen] at hfailed
    split
    · next after hresult =>
      simp only [hresult] at hfailed
      cases hfailed
    · next cut cause hresult =>
      simp only [hresult] at hfailed
      split
      · next back hback =>
        have hfaults := OpenFile.faults_of_truncateTo (congrArg Prod.snd hback)
        rw [hfaults] at hback
        obtain rfl : (cut.setLength log.bytes.length).seek log.bytes.length = back :=
          congrArg Prod.fst hback
        exact ⟨_, rfl, FileContents.length_resize _ _, rfl⟩
      · next back rollback hback =>
        simp only [hback] at hfailed
        cases hfailed

end LineLog.Log
