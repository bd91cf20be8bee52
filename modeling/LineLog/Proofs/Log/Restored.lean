import LineLog.Proofs.Log.Undone

/-!
# Restoring a file

What is read from a file does not say how its contents are kept.  Contents without empty
extents stay so under every operation, and with such contents cutting a file back to what it
held does more than restore what is read: the file is the one from before the write.
-/

namespace LineLog

namespace Extent

/-- None of the extents is empty. -/
def Compact (extents : List Extent) : Prop :=
  ∀ extent ∈ extents, 0 < extent.length

def lengthAll (extents : List Extent) : Nat :=
  extents.foldr (fun extent length => extent.length + length) 0

variable {extents more : List Extent} {count : Nat}

theorem Compact.append (hextents : Compact extents) (hmore : Compact more) :
    Compact (extents ++ more) :=
  List.forall_mem_append.mpr ⟨hextents, hmore⟩

theorem compact_holeOf (length : Nat) : Compact (holeOf length) := by
  unfold holeOf
  split
  · exact List.forall_mem_nil _
  · next hlength =>
    rintro extent hextent
    rw [List.mem_singleton.mp hextent]
    exact Nat.pos_of_ne_zero hlength

theorem length_take (count : Nat) (extent : Extent) :
    (extent.take count).length = min count extent.length := by
  cases extent <;> simp [take, length]

theorem length_drop (count : Nat) (extent : Extent) :
    (extent.drop count).length = extent.length - count := by
  cases extent <;> simp [drop, length]

theorem Compact.takeAll (hextents : Compact extents) (count : Nat) :
    Compact (takeAll count extents) := by
  induction extents generalizing count with
  | nil => exact hextents
  | cons extent rest ih =>
      obtain ⟨hfirst, hrest⟩ := List.forall_mem_cons.mp hextents
      unfold Extent.takeAll
      split
      · exact List.forall_mem_nil _
      · next hcount =>
        split
        · exact List.forall_mem_cons.mpr ⟨hfirst, ih hrest _⟩
        · refine List.forall_mem_cons.mpr ⟨?_, List.forall_mem_nil _⟩
          rw [length_take]
          omega

theorem Compact.dropAll (hextents : Compact extents) (count : Nat) :
    Compact (dropAll count extents) := by
  induction extents generalizing count with
  | nil => exact hextents
  | cons extent rest ih =>
      obtain ⟨hfirst, hrest⟩ := List.forall_mem_cons.mp hextents
      unfold Extent.dropAll
      split
      · exact hextents
      · split
        · exact ih hrest _
        · refine List.forall_mem_cons.mpr ⟨?_, hrest⟩
          rw [length_drop]
          omega

/-- The front of some extents that is as long as the first of them. -/
theorem Compact.takeAll_append (hextents : Compact extents) (more : List Extent) :
    Extent.takeAll (lengthAll extents) (extents ++ more) = extents := by
  induction extents with
  | nil => cases more <;> rfl
  | cons extent rest ih =>
      obtain ⟨hfirst, hrest⟩ := List.forall_mem_cons.mp hextents
      have hcount : lengthAll (extent :: rest) = extent.length + lengthAll rest := rfl
      rw [List.cons_append, Extent.takeAll, if_neg (by omega), if_pos (by omega), hcount,
        Nat.add_sub_cancel_left, ih hrest]

/-- Nothing is left behind the end. -/
theorem Compact.dropAll_eq_nil (hextents : Compact extents) (hcount : lengthAll extents ≤ count) :
    Extent.dropAll count extents = [] := by
  induction extents generalizing count with
  | nil => rfl
  | cons extent rest ih =>
      obtain ⟨hfirst, hrest⟩ := List.forall_mem_cons.mp hextents
      have hall : lengthAll (extent :: rest) = extent.length + lengthAll rest := rfl
      rw [Extent.dropAll, if_neg (by omega), if_pos (by omega)]
      exact ih hrest (by omega)

end Extent

namespace FileContents

variable {contents : FileContents}

def Compact (contents : FileContents) : Prop :=
  Extent.Compact contents.extents

theorem Compact.resize (hcontents : contents.Compact) (length : Nat) :
    (contents.resize length).Compact :=
  (Extent.Compact.takeAll hcontents length).append (Extent.compact_holeOf _)

theorem Compact.overwrite (hcontents : contents.Compact) (position : Nat) {bytes : Bytes}
    (hbytes : bytes ≠ []) : (contents.overwrite position bytes).Compact := by
  refine (hcontents.resize position).append (List.forall_mem_cons.mpr ⟨?_, ?_⟩)
  · exact List.length_pos_iff.mpr hbytes
  · exact Extent.Compact.dropAll hcontents _

/-- Cutting away what was added brings the contents back. -/
theorem Compact.resize_length (hcontents : contents.Compact) (more : List Extent) :
    FileContents.resize contents.length ⟨contents.extents ++ more⟩ = contents := by
  have htotal : contents.length ≤ length ⟨contents.extents ++ more⟩ := by
    rw [← length_toBytes, ← length_toBytes]
    simp [toBytes]
  have hfront := Extent.Compact.takeAll_append hcontents more
  unfold FileContents.resize
  rw [Nat.sub_eq_zero_of_le htotal]
  exact congrArg mk (Eq.trans (List.append_nil _) hfront)

/-- What is written at the end goes behind all extents. -/
theorem Compact.overwrite_length (hcontents : contents.Compact) (bytes : Bytes) :
    contents.overwrite contents.length bytes = ⟨contents.extents ++ [.written bytes]⟩ := by
  have hfront := hcontents.resize_length []
  rw [List.append_nil] at hfront
  have hrest : Extent.dropAll (contents.length + bytes.length) contents.extents = [] :=
    Extent.Compact.dropAll_eq_nil hcontents (Nat.le_add_right _ _)
  unfold FileContents.overwrite
  rw [hfront, hrest]

end FileContents

namespace OpenFile

variable {file : OpenFile}

def Compact (file : OpenFile) : Prop :=
  file.contents.Compact

theorem compact_empty : OpenFile.empty.Compact := List.forall_mem_nil _

theorem Compact.write (hfile : file.Compact) (bytes : Bytes) : (file.write bytes).Compact := by
  unfold OpenFile.write
  split
  · exact hfile
  · next hbytes => exact FileContents.Compact.overwrite hfile file.position hbytes

theorem Compact.writeAll (hfile : file.Compact) (answers : List WriteAnswer) (record : Bytes) :
    (file.writeAll answers record).1.Compact := by
  fun_induction OpenFile.writeAll answers record file with
  | case1 | case4 | case5 => exact hfile
  | case2 file record => exact hfile.write record
  | case3 file record answers _ ih => exact ih hfile
  | case6 file record count answers _ ih => exact ih (hfile.write _)

theorem Compact.truncateTo (hfile : file.Compact) (faults : TruncateFaults) (length : Nat) :
    (file.truncateTo faults length).1.Compact := by
  unfold OpenFile.truncateTo
  split
  · exact hfile
  · exact FileContents.Compact.resize hfile length
  · exact FileContents.Compact.resize hfile length

/-- A write at the end only adds extents. -/
theorem Compact.exists_write {held : Bytes} (hfile : file.Compact) (hends : file.EndsWith held)
    (bytes : Bytes) :
    ∃ more, (file.write bytes).contents.extents = file.contents.extents ++ more := by
  unfold OpenFile.write
  split
  · exact ⟨[], (List.append_nil _).symm⟩
  · rw [hends.position_eq, ← hends.length_contents]
    exact ⟨_, congrArg FileContents.extents (FileContents.Compact.overwrite_length hfile bytes)⟩

/-- So does a whole record, however far it comes. -/
theorem Compact.exists_writeAll {held : Bytes} (hfile : file.Compact)
    (hends : file.EndsWith held) (answers : List WriteAnswer) (record : Bytes) :
    ∃ more, (file.writeAll answers record).1.contents.extents = file.contents.extents ++ more := by
  fun_induction OpenFile.writeAll answers record file generalizing held with
  | case1 | case4 | case5 => exact ⟨[], (List.append_nil _).symm⟩
  | case2 file record => exact hfile.exists_write hends record
  | case3 file record answers _ ih => exact ih hfile hends
  | case6 file record count answers _ ih =>
      obtain ⟨first, hfirst⟩ := hfile.exists_write hends (record.take (count + 1))
      obtain ⟨more, hmore⟩ := ih (hfile.write _) (hends.write _)
      exact ⟨first ++ more, by rw [hmore, hfirst, List.append_assoc]⟩

/-- Cutting back what was added behind the end brings the file back. -/
theorem Compact.truncateTo_eq {after : OpenFile} {held : Bytes} {more : List Extent}
    (hfile : file.Compact) (hends : file.EndsWith held)
    (hmore : after.contents.extents = file.contents.extents ++ more) :
    (after.truncateTo ⟨none, none⟩ held.length).1 = file := by
  obtain ⟨⟨extents⟩, position⟩ := after
  obtain rfl : extents = file.contents.extents ++ more := hmore
  have hcontents := FileContents.Compact.resize_length hfile more
  rw [hends.length_contents] at hcontents
  change OpenFile.mk (FileContents.resize held.length ⟨file.contents.extents ++ more⟩) held.length =
    file
  rw [hcontents, ← hends.position_eq]

end OpenFile

namespace Log

variable {obstacles : Obstacles} {record : Bytes} {log : Log}

def Compact (log : Log) : Prop :=
  ∀ file, log.file = some file → file.Compact

theorem compact_empty : Log.empty.Compact := by
  intro file hfile
  obtain rfl := Option.some.inj hfile
  exact OpenFile.compact_empty

theorem Compact.append (hlog : log.Compact) (obstacles : Obstacles) (record : Bytes) :
    (log.append obstacles record).1.Compact := by
  unfold Log.append
  split
  · exact hlog
  · next file hopen =>
    have hwritten := (hlog file hopen).writeAll obstacles.answers record
    split
    · next after hresult =>
      rw [hresult] at hwritten
      intro other hother
      exact Option.some.inj hother ▸ hwritten
    · next cut cause hresult =>
      rw [hresult] at hwritten
      have hcut := hwritten.truncateTo (obstacles.truncate cut) log.bytes.length
      split
      · next back hback =>
        rw [hback] at hcut
        intro other hother
        exact Option.some.inj hother ▸ hcut
      · next back rollback hback =>
        rw [hback] at hcut
        intro other hother
        exact Option.some.inj hother ▸ hcut

theorem compact_close (log : Log) : log.close.1.Compact := by
  intro file hfile
  rw [Log.file_close] at hfile
  cases hfile

/-- An append that fails and is undone leaves the log as it was. -/
theorem Compact.append_eq {failure : AppendFailure} (hlog : log.Compact) (hstep : log.InStep)
    (hfailed : (log.append obstacles record).2 = .error failure) (hundone : failure.isUndone) :
    (log.append obstacles record).1 = log := by
  unfold Log.append at hfailed ⊢
  split
  · rfl
  · next file hopen =>
    simp only [hopen] at hfailed
    have hends := hstep file hopen
    obtain ⟨more, hmore⟩ := (hlog file hopen).exists_writeAll hends obstacles.answers record
    split
    · next after hresult =>
      simp only [hresult] at hfailed
      cases hfailed
    · next cut cause hresult =>
      simp only [hresult] at hfailed
      rw [hresult] at hmore
      split
      · next back hback =>
        have hfaults := OpenFile.faults_of_truncateTo (congrArg Prod.snd hback)
        have hfile := (hlog file hopen).truncateTo_eq hends hmore
        rw [← hfaults, hback] at hfile
        obtain rfl : back = file := hfile
        rw [← hopen]
      · next back rollback hback =>
        simp only [hback] at hfailed
        obtain rfl := Except.error.inj hfailed
        cases hundone

end Log

end LineLog
