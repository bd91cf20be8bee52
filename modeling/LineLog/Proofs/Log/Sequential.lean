import LineLog.Log.Shared

/-!
# Calls made one at a time

What calls that are made one at a time say about each other.  A log that is
closed stays closed, and only a removal closes it.  Until then the log holds the
records of the appends that succeeded, in their order, and besides them only
records of appends whose callers panicked; so it only grows, and of two copies
the earlier one is a front of the later one.
-/

namespace LineLog

def LogCall.record : LogCall → Bytes
  | .append record => record
  | .snapshot | .length | .remove => []

namespace LogCall.Yields

variable {call : LogCall} {reply : LogReply} {before after : LogView} {bytes : Bytes}

theorem closed_of_closed (hyields : call.Yields reply none after) : after = none := by
  cases hyields <;> rfl

theorem remove_of_closes (hyields : call.Yields reply (some bytes) none) : call = .remove := by
  cases hyields
  rfl

theorem closes_of_remove (hyields : LogCall.remove.Yields reply before after) : after = none := by
  cases hyields with
  | removed | removedBefore => rfl
  | absent _ _ hcall => exact absurd rfl hcall

/-- A call that gets its reply may panic instead of giving it, unless it removes the log. -/
theorem panicked (hyields : call.Yields reply before after) (hcall : call ≠ .remove) :
    call.Yields .panicked before after := by
  cases hyields with
  | appended record bytes | executed record bytes => exact .executed record bytes
  | removed | removedBefore => exact absurd rfl hcall
  | refused | closed | snapshot | length | absent => exact .absent _ _ hcall

/-- An append is told that the log is closed exactly if it is. -/
theorem closed_iff {record : Bytes} (hyields : (LogCall.append record).Yields reply before after)
    (hreply : reply ≠ .panicked) : reply = .closed ↔ before = none := by
  cases hyields with
  | appended | refused => exact ⟨nofun, nofun⟩
  | closed => exact ⟨fun _ => rfl, fun _ => rfl⟩
  | absent | executed => exact absurd rfl hreply

/-- A copy of the log holds its records and leaves it as it is. -/
theorem eq_of_bytes {copy : Bytes} (hyields : call.Yields (.bytes copy) before after) :
    after = before ∧ copy = before.getD [] := by
  cases hyields
  exact ⟨rfl, rfl⟩

/-- A call on an open log that leaves it open adds its whole record or nothing. -/
theorem append_or_keep {final : Bytes} (hyields : call.Yields reply (some bytes) (some final)) :
    (final = bytes ++ call.record ∧
      ((∃ record, call = .append record) ∧ (reply = .appended ∨ reply = .panicked))) ∨
      (final = bytes ∧ reply ≠ .appended) := by
  cases hyields with
  | appended record => exact .inl ⟨rfl, ⟨record, rfl⟩, .inl rfl⟩
  | executed record => exact .inl ⟨rfl, ⟨record, rfl⟩, .inr rfl⟩
  | refused | snapshot | length | absent => exact .inr ⟨rfl, nofun⟩

end LogCall.Yields

namespace CallRecord

def hasAppended (entry : CallRecord) : Bool :=
  entry.reply = .appended

/-- The call is an append that succeeded or whose caller panicked. -/
def mayHaveAppended (entry : CallRecord) : Bool :=
  match entry.call, entry.reply with
  | .append _, .appended | .append _, .panicked => true
  | _, _ => false

namespace Sequential

variable {calls first second : List CallRecord} {before middle after : LogView}

theorem append (hfirst : Sequential first before middle)
    (hsecond : Sequential second middle after) : Sequential (first ++ second) before after := by
  induction hfirst with
  | nil => exact hsecond
  | cons hyields _ ih => exact .cons hyields (ih hsecond)

theorem snoc {entry : CallRecord} (hcalls : Sequential calls before middle)
    (hentry : entry.call.Yields entry.reply middle after) :
    Sequential (calls ++ [entry]) before after :=
  hcalls.append (.cons hentry (.nil after))

theorem of_append (hcalls : Sequential (first ++ second) before after) :
    ∃ middle, Sequential first before middle ∧ Sequential second middle after := by
  induction first generalizing before with
  | nil => exact ⟨before, .nil before, hcalls⟩
  | cons entry first ih =>
      cases hcalls with
      | cons hyields hothers =>
          obtain ⟨middle, hfirst, hsecond⟩ := ih hothers
          exact ⟨middle, .cons hyields hfirst, hsecond⟩

theorem closed_of_closed (hcalls : Sequential calls none after) : after = none := by
  induction calls with
  | nil =>
      cases hcalls
      rfl
  | cons entry calls ih =>
      cases hcalls with
      | cons hyields hothers =>
          rw [hyields.closed_of_closed] at hothers
          exact ih hothers

/-- The log is closed after some calls exactly if one of them removed it. -/
theorem closed_iff {bytes : Bytes} (hcalls : Sequential calls (some bytes) after) :
    after = none ↔ ∃ entry ∈ calls, entry.call = .remove := by
  induction calls generalizing bytes with
  | nil =>
      cases hcalls
      simp
  | cons entry calls ih =>
      cases hcalls with
      | @cons _ _ _ middle _ hyields hothers =>
          cases middle with
          | none =>
              have hremoved : entry.call = .remove := hyields.remove_of_closes
              simp [hothers.closed_of_closed, hremoved]
          | some bytes =>
              have hkept : entry.call ≠ .remove := by
                intro hcall
                rw [hcall] at hyields
                cases hyields.closes_of_remove
              rw [ih hothers]
              simp [hkept]

/-- The records in an open log are those of the appends that succeeded, and of some
whose callers panicked, each of them once and in the order of the calls. -/
theorem exists_taken {bytes final : Bytes} (hcalls : Sequential calls (some bytes) (some final)) :
    ∃ taken, (calls.filter hasAppended).Sublist taken ∧
      taken.Sublist (calls.filter mayHaveAppended) ∧
      final = bytes ++ taken.flatMap (·.call.record) := by
  induction calls generalizing bytes with
  | nil =>
      cases hcalls
      exact ⟨[], .slnil, .slnil, (List.append_nil _).symm⟩
  | cons entry calls ih =>
      cases hcalls with
      | @cons _ _ _ middle _ hyields hothers =>
          cases middle with
          | none => cases hothers.closed_of_closed
          | some next =>
              obtain ⟨taken, hall, honly, hfinal⟩ := ih hothers
              rcases hyields.append_or_keep with ⟨hadded, ⟨record, hcall⟩, hreply⟩ | ⟨hkept, hreply⟩
              · have hmay : mayHaveAppended entry := by
                  rcases hreply with hreply | hreply <;> simp [mayHaveAppended, hcall, hreply]
                refine ⟨entry :: taken, ?_, ?_, ?_⟩
                · rw [List.filter_cons]
                  split
                  · exact hall.cons_cons entry
                  · exact hall.cons entry
                · rw [List.filter_cons_of_pos hmay]
                  exact honly.cons_cons entry
                · rw [hfinal, hadded, List.flatMap_cons, List.append_assoc]
              · have hnot : ¬ hasAppended entry := by simpa [hasAppended] using hreply
                refine ⟨taken, ?_, ?_, ?_⟩
                · rwa [List.filter_cons_of_neg hnot]
                · exact honly.trans ((List.sublist_cons_self entry calls).filter _)
                · rw [hfinal, hkept]

/-- An open log only grows. -/
theorem prefix_of_open {bytes final : Bytes}
    (hcalls : Sequential calls (some bytes) (some final)) : bytes <+: final := by
  obtain ⟨taken, -, -, rfl⟩ := hcalls.exists_taken
  exact List.prefix_append bytes _

/-- An append that gets its answer is told that the log is closed exactly if one of
the calls before it removed the log. -/
theorem reply_closed_iff {entry : CallRecord} {bytes record : Bytes}
    (hcalls : Sequential (first ++ entry :: second) (some bytes) after)
    (hcall : entry.call = .append record) (hreply : entry.reply ≠ .panicked) :
    entry.reply = .closed ↔ ∃ removal ∈ first, removal.call = .remove := by
  obtain ⟨reached, hfirst, hothers⟩ := hcalls.of_append
  cases hothers with
  | cons hyields _ =>
      rw [hcall] at hyields
      rw [hyields.closed_iff hreply, hfirst.closed_iff]

/-- Of two copies that are made before any removal, the earlier one is a front of the
later one. -/
theorem copy_prefix_copy {earlier later : CallRecord} {between : List CallRecord}
    {bytes copy other : Bytes}
    (hcalls : Sequential (first ++ earlier :: (between ++ later :: second)) (some bytes) after)
    (hcopy : earlier.reply = .bytes copy) (hother : later.reply = .bytes other)
    (hopen : ∀ entry ∈ first ++ earlier :: between, entry.call ≠ .remove) : copy <+: other := by
  rw [← List.cons_append, ← List.append_assoc] at hcalls
  obtain ⟨atLater, hbefore, hlater⟩ := hcalls.of_append
  obtain ⟨_, -, hearlier⟩ := hbefore.of_append
  have hstill : atLater ≠ none := fun hclosed => by
    obtain ⟨removal, hremoval, hcall⟩ := hbefore.closed_iff.mp hclosed
    exact hopen removal hremoval hcall
  cases hlater with
  | cons hyields _ =>
      rw [hother] at hyields
      obtain ⟨-, rfl⟩ := hyields.eq_of_bytes
      cases hearlier with
      | @cons _ _ _ atEarlier _ hyields hbetween =>
          rw [hcopy] at hyields
          obtain ⟨rfl, rfl⟩ := hyields.eq_of_bytes
          cases atLater with
          | none => exact absurd rfl hstill
          | some final =>
              cases atEarlier with
              | none => cases hbetween.closed_of_closed
              | some start => exact hbetween.prefix_of_open

end Sequential

end CallRecord

end LineLog
