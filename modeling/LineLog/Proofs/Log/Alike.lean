import LineLog.Proofs.Client
import LineLog.Proofs.Log.Append

/-!
# Logs that look alike

The callers of a log see its memory and whether it is open, and never its file.  Whether a
write succeeds is up to the system alone, so a call on logs that look alike has the same
result on both and leaves them alike.
-/

namespace LineLog

/-- Whether a write succeeds does not depend on the file. -/
theorem OpenFile.snd_writeAll (answers : List WriteAnswer) (record : Bytes)
    (file other : OpenFile) :
    (file.writeAll answers record).2 = (other.writeAll answers record).2 := by
  induction answers generalizing record file other with
  | nil => cases record <;> rfl
  | cons answer answers ih =>
      cases record with
      | nil => rfl
      | cons byte rest =>
          cases answer with
          | accepted count =>
              cases count with
              | zero => rfl
              | succ count => exact ih _ _ _
          | interrupted => exact ih _ _ _
          | refused cause => rfl

namespace Log

/-- What the callers of a log can see of it is the same. -/
structure Alike (log other : Log) : Prop where
  bytes_eq : other.bytes = log.bytes
  isSome_file_eq : other.file.isSome = log.file.isSome

/-- A caller is told why the write of its record failed, and not what became of the file. -/
theorem mapError_append {log : Log} {file : OpenFile} (hopen : log.file = some file)
    (path : Path) (obstacles : Obstacles) (record : Bytes) :
    (log.append obstacles record).2.mapError (StoreError.ofAppend path) =
      (file.writeAll obstacles.answers record).2.mapError (StoreError.write path) := by
  unfold append
  simp only [hopen]
  split
  · next hwritten => rw [hwritten]; rfl
  · next hwritten =>
    rw [hwritten]
    split <;> rfl

namespace Alike

variable {log other : Log}

theorem refl (log : Log) : log.Alike log := ⟨rfl, rfl⟩

theorem file_eq_none (halike : log.Alike other) (hclosed : log.file = none) :
    other.file = none := by
  have hother := halike.isSome_file_eq
  rw [hclosed] at hother
  exact Option.not_isSome_iff_eq_none.mp (Bool.eq_false_iff.mp hother)

theorem exists_file (halike : log.Alike other) {file : OpenFile} (hopen : log.file = some file) :
    ∃ second, other.file = some second :=
  Option.isSome_iff_exists.mp (halike.isSome_file_eq.trans (by rw [hopen]; rfl))

theorem mapError_append_eq (halike : log.Alike other) (path : Path) (obstacles : Obstacles)
    (record : Bytes) :
    (other.append obstacles record).2.mapError (StoreError.ofAppend path) =
      (log.append obstacles record).2.mapError (StoreError.ofAppend path) := by
  cases hopen : log.file with
  | none =>
      rw [append_of_closed _ _ _ hopen, append_of_closed _ _ _ (halike.file_eq_none hopen)]
  | some file =>
      obtain ⟨second, hother⟩ := halike.exists_file hopen
      rw [mapError_append hopen, mapError_append hother, OpenFile.snd_writeAll _ _ second file]

/-- An append succeeds on both or on neither. -/
theorem append_ends (halike : log.Alike other) (obstacles : Obstacles) (record : Bytes) :
    (log.append obstacles record).2 = .ok () ∧ (other.append obstacles record).2 = .ok () ∨
      ∃ failure second, (log.append obstacles record).2 = .error failure ∧
        (other.append obstacles record).2 = .error second := by
  have hresult := halike.mapError_append_eq [] obstacles record
  generalize (log.append obstacles record).2 = first at hresult ⊢
  generalize (other.append obstacles record).2 = second at hresult ⊢
  cases first with
  | ok =>
      cases second with
      | ok => exact .inl ⟨rfl, rfl⟩
      | error => cases hresult
  | error failure =>
      cases second with
      | ok => cases hresult
      | error cause => exact .inr ⟨failure, cause, rfl, rfl⟩

theorem append (halike : log.Alike other) (obstacles : Obstacles) (record : Bytes) :
    (log.append obstacles record).1.Alike (other.append obstacles record).1 where
  bytes_eq := by
    rw [bytes_append, bytes_append, halike.bytes_eq]
    obtain ⟨hfirst, hsecond⟩ | ⟨_, _, hfirst, hsecond⟩ := halike.append_ends obstacles record
    · rw [hfirst, hsecond]
    · rw [hfirst, hsecond]
      rfl
  isSome_file_eq := by
    rw [isSome_file_append, isSome_file_append, halike.isSome_file_eq]

/-- Closing finds both open or both closed. -/
theorem close (halike : log.Alike other) :
    other.close.2 = log.close.2 ∧ log.close.1.Alike other.close.1 := by
  unfold Log.close
  cases hopen : log.file with
  | none =>
      rw [halike.file_eq_none hopen]
      exact ⟨rfl, halike⟩
  | some file =>
      obtain ⟨second, hother⟩ := halike.exists_file hopen
      rw [hother]
      exact ⟨rfl, rfl, rfl⟩

end Alike

end Log

namespace Client

variable {path : Path} {stopping : Bool} {client after : Client} {log final other : Log}

/-- A task cannot tell logs apart that look alike. -/
theorem act_of_alike {step : ClientStep} (halike : log.Alike other)
    (hact : client.act path stopping step log = some (after, final)) :
    ∃ last, client.act path stopping step other = some (after, last) ∧ final.Alike last := by
  cases acted_of_act hact with
  | took count after hoffers henter =>
      refine ⟨other, ?_, halike⟩
      simp only [act, hoffers, if_true, henter, Option.map_some]
  | appended obstacles message after hmessage henter =>
      rw [← halike.mapError_append_eq] at henter
      exact ⟨_, act_append hmessage henter, halike.append obstacles message⟩
  | discarded count outcome sent hconnection hoffers =>
      refine ⟨other, ?_, halike⟩
      simp only [act, hconnection, hoffers, if_true]
  | entered step input after hinput hend htime henter =>
      refine ⟨other, ?_, halike⟩
      cases step with
      | take | append | discard => cases hinput
      | endOfStream =>
          obtain ⟨hfinished, hempty⟩ := hend rfl
          obtain rfl := Option.some.inj hinput
          simp only [act, hfinished, hempty, List.isEmpty_nil, Bool.and_self, if_true, henter,
            Option.map_some]
      | timeOut =>
          obtain rfl := Option.some.inj hinput
          simp only [act, htime rfl, List.isEmpty_nil, if_true, henter, Option.map_some]
      | copy =>
          obtain rfl := Option.some.inj hinput
          have hsame : other.snapshot = log.snapshot := halike.bytes_eq
          simp only [act, hsame, henter, Option.map_some]
      | _ =>
          obtain rfl := Option.some.inj hinput
          simp only [act, henter, Option.map_some]

end Client

end LineLog
