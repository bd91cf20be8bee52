import LineLog.OpenFile

/-!
# Writing behind what a file holds

A file that is written at its end keeps what it holds, however the system takes
the write: in any number of pieces, and up to any point.  What was written is a
front of the bytes, and all of them if the write succeeds.  Cutting the file
back to its former length takes such a front away again.

If the write position has left the end, less is known: nothing is changed before
the position, wherever the end is.  A gap is filled only behind the end, and
setting the length takes nothing away before the new length.
-/

namespace LineLog

/-! ## What stands in front of a place -/

namespace FileContents

variable {front : Bytes} {contents : FileContents}

theorem prefix_resize {length : Nat} (hfront : front <+: contents.toBytes)
    (hlength : front.length ≤ length) : front <+: (contents.resize length).toBytes := by
  have htake : front <+: contents.toBytes.take length :=
    List.prefix_take_iff.mpr ⟨hfront, hlength⟩
  rw [toBytes_resize]
  exact htake.trans (List.prefix_append _ _)

theorem prefix_overwrite {position : Nat} (hfront : front <+: contents.toBytes)
    (hposition : front.length ≤ position) (bytes : Bytes) :
    front <+: (contents.overwrite position bytes).toBytes := by
  rw [toBytes_overwrite, List.append_assoc]
  exact (prefix_resize hfront hposition).trans (List.prefix_append _ _)

end FileContents

namespace OpenFile

/-! ## A file that is written at its end -/

/-- The file holds exactly `bytes`, and the next write goes behind them. -/
structure EndsWith (bytes : Bytes) (file : OpenFile) : Prop where
  toBytes_eq : file.toBytes = bytes
  position_eq : file.position = bytes.length

namespace EndsWith

theorem empty : OpenFile.empty.EndsWith [] := ⟨rfl, rfl⟩

variable {bytes : Bytes} {file : OpenFile}

theorem length_contents (hfile : file.EndsWith bytes) : file.contents.length = bytes.length := by
  rw [← FileContents.length_toBytes]
  exact congrArg List.length hfile.toBytes_eq

theorem write (hfile : file.EndsWith bytes) (more : Bytes) :
    (file.write more).EndsWith (bytes ++ more) where
  toBytes_eq := by
    have hend : file.position = file.contents.length := by
      rw [hfile.position_eq, hfile.length_contents]
    rw [toBytes_write_at_end more file hend, hfile.toBytes_eq]
  position_eq := by
    rw [position_write, hfile.position_eq, List.length_append]

/-- Whatever the system answers, a front of the record is written. -/
theorem writeAll (hfile : file.EndsWith bytes) (answers : List WriteAnswer) (record : Bytes) :
    ∃ written, written <+: record ∧
      (file.writeAll answers record).1.EndsWith (bytes ++ written) ∧
      ((file.writeAll answers record).2 = .ok () → written = record) := by
  fun_induction OpenFile.writeAll answers record file generalizing bytes with
  | case1 _ file => exact ⟨[], List.prefix_rfl, by rwa [List.append_nil], fun _ => rfl⟩
  | case2 file record => exact ⟨record, List.prefix_rfl, hfile.write record, fun _ => rfl⟩
  | case3 file record answers _ ih => exact ih hfile
  | case4 file record cause | case5 file record =>
      -- a call that fails writes nothing
      exact ⟨[], List.nil_prefix, by rwa [List.append_nil], nofun⟩
  | case6 file record count answers _ ih =>
      let front := record.take (count + 1)
      have hsplit : front ++ record.drop (count + 1) = record := List.take_append_drop _ _
      obtain ⟨written, hfront, hends, hok⟩ := ih (hfile.write front)
      refine ⟨front ++ written, ?_, ?_, ?_⟩
      · rw [← hsplit]
        exact (List.prefix_append_right_inj front).mpr hfront
      · rw [← List.append_assoc]
        exact hends
      · intro hdone
        rw [hok hdone, hsplit]

/-- Cutting back to the former length undoes a write that was not finished. -/
theorem truncateTo {written : Bytes} (hfile : file.EndsWith (bytes ++ written)) :
    (file.truncateTo ⟨none, none⟩ bytes.length).1.EndsWith bytes where
  toBytes_eq := by
    have hlength := hfile.length_contents
    have hcut : bytes.length - file.contents.length = 0 := by
      rw [hlength, List.length_append]
      omega
    change (file.contents.resize bytes.length).toBytes = bytes
    rw [FileContents.toBytes_resize, hcut, List.replicate_zero, List.append_nil]
    change file.toBytes.take bytes.length = bytes
    rw [hfile.toBytes_eq, List.take_left]
  position_eq := rfl

end EndsWith

/-! ## A file that is written somewhere behind its front -/

structure BeginsWith (front : Bytes) (file : OpenFile) : Prop where
  prefix_toBytes : front <+: file.toBytes
  length_le_position : front.length ≤ file.position

theorem EndsWith.beginsWith {bytes : Bytes} {file : OpenFile} (hfile : file.EndsWith bytes) :
    file.BeginsWith bytes where
  prefix_toBytes := hfile.toBytes_eq ▸ List.prefix_refl _
  length_le_position := Nat.le_of_eq hfile.position_eq.symm

namespace BeginsWith

variable {front : Bytes} {file : OpenFile}

theorem write (hfile : file.BeginsWith front) (bytes : Bytes) :
    (file.write bytes).BeginsWith front where
  prefix_toBytes := by
    unfold OpenFile.write
    split
    · exact hfile.prefix_toBytes
    · exact FileContents.prefix_overwrite hfile.prefix_toBytes hfile.length_le_position bytes
  length_le_position := by
    rw [position_write]
    exact Nat.le_add_right_of_le hfile.length_le_position

/-- However far a write comes, it goes behind the front. -/
theorem writeAll (hfile : file.BeginsWith front) (answers : List WriteAnswer) (record : Bytes) :
    (file.writeAll answers record).1.BeginsWith front := by
  fun_induction OpenFile.writeAll answers record file with
  | case1 | case4 | case5 => exact hfile
  | case2 file record => exact hfile.write record
  | case3 file record answers _ ih => exact ih hfile
  | case6 file record count answers _ ih => exact ih (hfile.write _)

/-- Cutting back to a length that leaves room for the front keeps it, whichever part of
that fails. -/
theorem truncateTo {length : Nat} (hfile : file.BeginsWith front)
    (hlength : front.length ≤ length) (faults : TruncateFaults) :
    (file.truncateTo faults length).1.BeginsWith front := by
  have hresized : front <+: (file.contents.resize length).toBytes :=
    FileContents.prefix_resize hfile.prefix_toBytes hlength
  unfold OpenFile.truncateTo
  split
  · exact hfile
  · exact ⟨hresized, hfile.length_le_position⟩
  · exact ⟨hresized, hlength⟩

end BeginsWith

end OpenFile

end LineLog
