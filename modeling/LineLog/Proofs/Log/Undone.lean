import LineLog.Proofs.Log.Append

/-!
# What a failed append leaves behind

An append that fails leaves the memory as it was.  If it is undone, that is if the log
was closed or the file could be cut back, it leaves no trace in the file either, as
long as the file held exactly what is in memory.
-/

namespace LineLog

/-- A failed append is undone unless something kept the file from being cut back. -/
def AppendFailure.isUndone : AppendFailure → Bool
  | .closed | .write _ none => true
  | .write _ (some _) => false

/-- A file that is cut back has met no obstacle. -/
theorem OpenFile.faults_of_truncateTo {faults : OpenFile.TruncateFaults} {length : Nat}
    {file : OpenFile} (hok : (file.truncateTo faults length).2 = .ok ()) :
    faults = ⟨none, none⟩ := by
  obtain ⟨setLength, seek⟩ := faults
  cases setLength with
  | some cause => cases hok
  | none =>
      cases seek with
      | some cause => cases hok
      | none => rfl

namespace Log

/-- The file, as long as there is one, holds exactly what is in memory, and the next
write goes behind that. -/
def InStep (log : Log) : Prop :=
  ∀ file, log.file = some file → file.EndsWith log.bytes

structure SameAs (before after : Log) : Prop where
  bytes_eq : after.bytes = before.bytes
  toBytes_eq : after.file.map (·.toBytes) = before.file.map (·.toBytes)
  position_eq : after.file.map (·.position) = before.file.map (·.position)

variable {obstacles : Obstacles} {record : Bytes} {log : Log}

theorem InStep.append (hstep : log.InStep)
    (hok : (log.append obstacles record).2 = .ok ()) : (log.append obstacles record).1.InStep := by
  unfold Log.append at hok ⊢
  split
  · next hclosed =>
    simp only [hclosed] at hok
    cases hok
  · next file hopen =>
    simp only [hopen] at hok
    obtain ⟨written, -, hwritten, hall⟩ := (hstep file hopen).writeAll obstacles.answers record
    split
    · next after hresult =>
      rw [hresult] at hwritten hall
      intro other hother
      obtain rfl := Option.some.inj hother
      exact hall rfl ▸ hwritten
    · next cut cause hresult =>
      simp only [hresult] at hok
      split at hok <;> cases hok

theorem bytes_of_append_error {failure : AppendFailure}
    (hfailed : (log.append obstacles record).2 = .error failure) :
    (log.append obstacles record).1.bytes = log.bytes := by
  rw [bytes_append, hfailed]
  exact List.append_nil _

/-- An append that fails and is undone leaves no trace. -/
theorem InStep.sameAs_append {failure : AppendFailure} (hstep : log.InStep)
    (hfailed : (log.append obstacles record).2 = .error failure) (hundone : failure.isUndone) :
    log.SameAs (log.append obstacles record).1 := by
  unfold Log.append at hfailed ⊢
  split
  · exact ⟨rfl, rfl, rfl⟩
  · next file hopen =>
    simp only [hopen] at hfailed
    have hends := hstep file hopen
    obtain ⟨written, -, hwritten, -⟩ := hends.writeAll obstacles.answers record
    split
    · next after hresult =>
      simp only [hresult] at hfailed
      cases hfailed
    · next cut cause hresult =>
      simp only [hresult] at hfailed
      rw [hresult] at hwritten
      split
      · next back hback =>
        -- the file is cut back to what it held before the record
        have hfaults := OpenFile.faults_of_truncateTo (congrArg Prod.snd hback)
        have hcut := hwritten.truncateTo
        rw [← hfaults, hback] at hcut
        refine ⟨rfl, ?_, ?_⟩
        · rw [hopen, Option.map_some, Option.map_some, hcut.toBytes_eq, hends.toBytes_eq]
        · rw [hopen, Option.map_some, Option.map_some, hcut.position_eq, hends.position_eq]
      · next back rollback hback =>
        simp only [hback] at hfailed
        obtain rfl := Except.error.inj hfailed
        cases hundone

end Log

end LineLog
