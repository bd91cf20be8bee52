import LineLog.Connection.Linger

/-!
# Lingering comes to an end

The peer may send for ever, and reads may be interrupted for ever; what ends lingering is the
clock alone.  Every read begins before the deadline, because the clock is looked at before it,
and so the last one overshoots the deadline by less than a read may take.  Before the deadline
lingering ends only with a read that ends it.
-/

namespace LineLog

/-- Whether lingering goes on after a read: the read has brought something, or it was
interrupted. -/
def Read.goesOn : Read → Bool
  | .chunk _ | .interrupted => true
  | .endOfStream | .timedOut | .failed _ => false

namespace Linger

variable {start length deadline : Nanoseconds} {round : LingerRound} {rounds : Nat → LingerRound}
  {last limit : Nat} {reason : LingerEnd}

/-! ## One round -/

theorem end?_of_late (hlate : deadline ≤ round.now) : end? deadline round = some .deadline :=
  if_pos hlate

theorem end?_of_early (hearly : round.now < deadline) : end? deadline round =
      match round.read with
      | .chunk _ | .interrupted => none
      | .endOfStream => some .closed
      | .timedOut | .failed _ => some .failed :=
  if_neg (Nat.not_le.mpr hearly)

theorem end?_eq_none_iff : end? deadline round = none ↔
    round.now < deadline ∧ round.read.goesOn := by
  rcases Nat.lt_or_ge round.now deadline with hearly | hlate
  · rw [end?_of_early hearly]
    cases round.read <;> simp [hearly, Read.goesOn]
  · simp [end?_of_late hlate, Nat.not_lt.mpr hlate]

inductive Ends (deadline : Nanoseconds) (round : LingerRound) : LingerEnd → Prop where
  | deadline (hlate : deadline ≤ round.now) : Ends deadline round .deadline
  | closed (hearly : round.now < deadline) (hread : round.read = .endOfStream) :
      Ends deadline round .closed
  | timedOut (hearly : round.now < deadline) (hread : round.read = .timedOut) :
      Ends deadline round .failed
  | failed (cause : Os.Error) (hearly : round.now < deadline)
      (hread : round.read = .failed cause) : Ends deadline round .failed

theorem ends_of_end? (hend : end? deadline round = some reason) : Ends deadline round reason := by
  rcases Nat.lt_or_ge round.now deadline with hearly | hlate
  · rw [end?_of_early hearly] at hend
    split at hend
    · cases hend
    · cases hend
    · next hread =>
      obtain rfl := Option.some.inj hend
      exact .closed hearly hread
    · next hread =>
      obtain rfl := Option.some.inj hend
      exact .timedOut hearly hread
    · next cause hread =>
      obtain rfl := Option.some.inj hend
      exact .failed cause hearly hread
  · obtain rfl := Option.some.inj ((end?_of_late hlate).symm.trans hend)
    exact .deadline hlate

/-- A read that lets lingering go on does not end it. -/
theorem Ends.eq_deadline (hends : Ends deadline round reason)
    (hread : reason ≠ .deadline → round.read.goesOn) :
    reason = .deadline ∧ deadline ≤ round.now := by
  cases hends with
  | deadline hlate => exact ⟨rfl, hlate⟩
  | closed _ hends | timedOut _ hends | failed _ _ hends => simp [hends, Read.goesOn] at hread

/-! ## One round after the other -/

theorem endBefore?_eq_none_iff :
    endBefore? deadline rounds limit = none ↔
      ∀ number < limit, end? deadline (rounds number) = none := by
  induction limit with
  | zero => simp [endBefore?]
  | succ limit ih =>
      rw [endBefore?, Option.orElse_eq_or, Option.or_eq_none_iff, ih, Option.map_eq_none_iff,
        Nat.forall_lt_succ_right]

/-- The first round that ends lingering is the last one, however many more there might be. -/
theorem endBefore?_eq_some_iff :
    endBefore? deadline rounds limit = some (last, reason) ↔
      last < limit ∧ end? deadline (rounds last) = some reason ∧
        ∀ number < last, end? deadline (rounds number) = none := by
  induction limit with
  | zero => simp [endBefore?]
  | succ limit ih =>
      rw [endBefore?, Option.orElse_eq_or, Option.or_eq_some_iff, ih, endBefore?_eq_none_iff,
        Option.map_eq_some_iff]
      constructor
      · rintro (⟨hlast, hend, hearlier⟩ | ⟨hearlier, other, hend, hround⟩)
        · exact ⟨Nat.lt_succ_of_lt hlast, hend, hearlier⟩
        · obtain ⟨rfl, rfl⟩ := Prod.mk.inj hround
          exact ⟨Nat.lt_succ_self limit, hend, hearlier⟩
      · rintro ⟨hlast, hend, hearlier⟩
        rcases Nat.lt_succ_iff_lt_or_eq.mp hlast with hbefore | rfl
        · exact .inl ⟨hbefore, hend, hearlier⟩
        · exact .inr ⟨hearlier, reason, hend, rfl⟩

/-- The clock does not go back, and it passes every bound. -/
structure Flows (start : Nanoseconds) (rounds : Nat → LingerRound) : Prop where
  first : start ≤ (rounds 0).now
  during : ∀ number, (rounds number).now ≤ (rounds number).done
  between : ∀ number, (rounds number).done ≤ (rounds (number + 1)).now
  unbounded : ∀ bound, ∃ number, bound < (rounds number).now

theorem Flows.start_le (hflows : Flows start rounds) (number : Nat) :
    start ≤ (rounds number).now := by
  induction number with
  | zero => exact hflows.first
  | succ number ih =>
      calc start ≤ (rounds number).now := ih
        _ ≤ (rounds number).done := hflows.during number
        _ ≤ (rounds (number + 1)).now := hflows.between number

theorem Flows.exists_end (hflows : Flows start rounds) (deadline : Nanoseconds) :
    ∃ last reason, end? deadline (rounds last) = some reason ∧
      ∀ number < last, end? deadline (rounds number) = none := by
  obtain ⟨late, hlate⟩ := hflows.unbounded deadline
  have hlate : deadline ≤ (rounds late).now := Nat.le_of_lt hlate
  have hend : end? deadline (rounds late) = some .deadline := end?_of_late hlate
  cases hfirst : endBefore? deadline rounds (late + 1) with
  | none =>
      have hnever := endBefore?_eq_none_iff.mp hfirst late (Nat.lt_succ_self late)
      cases hend.symm.trans hnever
  | some first => exact ⟨first.1, first.2, (endBefore?_eq_some_iff.mp hfirst).2⟩

/-! ## The whole of lingering -/

/-- When lingering is over that ends with `round`: when the clock is found to be past the
deadline, or when the read has ended. -/
def endTime (reason : LingerEnd) (round : LingerRound) : Nanoseconds :=
  match reason with
  | .deadline => round.now
  | .closed | .failed => round.done

theorem reads_iff {number : Nat} :
    reads last reason number ↔ number < last ∨ number = last ∧ reason ≠ .deadline := by
  simp [reads]

/-- How a connection lingers from `start` for `length`. -/
structure Lingers (start length : Nanoseconds) (rounds : Nat → LingerRound) (last : Nat)
    (reason : LingerEnd) : Prop where
  /-- Lingering ends with the round `last`. -/
  ends : ∀ limit, endBefore? (start + length) rounds limit =
    if last < limit then some (last, reason) else none
  /-- Every read begins before the deadline. -/
  begins : ∀ number, reads last reason number →
    start ≤ (rounds number).now ∧ (rounds number).now < start + length
  /-- A read that returns in time is over before the same time has passed once more. -/
  returns : ∀ number, reads last reason number →
    (rounds number).done ≤ (rounds number).now + length → (rounds number).done < start + 2 * length
  /-- Nothing but the last read ends lingering before the deadline. -/
  early : endTime reason (rounds last) < start + length →
    reason = .closed ∧ (rounds last).read = .endOfStream ∨
      reason = .failed ∧
        ((rounds last).read = .timedOut ∨ ∃ cause, (rounds last).read = .failed cause)
  /-- A peer that goes on sending is waited for until the deadline. -/
  sending : (∀ number, reads last reason number → (rounds number).read.goesOn) →
    reason = .deadline ∧ start + length ≤ endTime reason (rounds last)

/-- Every read is made in time. -/
theorem now_lt_of_reads {number : Nat} (hends : Ends deadline (rounds last) reason)
    (hearlier : ∀ number < last, end? deadline (rounds number) = none)
    (hreads : reads last reason number) : (rounds number).now < deadline := by
  rcases reads_iff.mp hreads with hbefore | ⟨rfl, hread⟩
  · exact (end?_eq_none_iff.mp (hearlier number hbefore)).1
  · cases hends with
    | deadline => exact absurd rfl hread
    | closed hearly | timedOut hearly | failed _ hearly => exact hearly

/-- As long as the clock goes on, lingering ends, whatever the reads bring: with the first look
at the clock that finds the deadline passed, unless a read has ended it before. -/
theorem lingers_of_flows (hflows : Flows start rounds) (readTimeout : Option Nanoseconds) :
    ∃ last reason, Lingers start (time readTimeout) rounds last reason := by
  obtain ⟨last, reason, hend, hearlier⟩ := hflows.exists_end (start + time readTimeout)
  have hends := ends_of_end? hend
  refine ⟨last, reason, ?_, ?_, ?_, ?_, ?_⟩
  · intro limit
    split
    · next hlimit => exact endBefore?_eq_some_iff.mpr ⟨hlimit, hend, hearlier⟩
    · next hlimit =>
      exact endBefore?_eq_none_iff.mpr fun number hnumber =>
        hearlier number (Nat.lt_of_lt_of_le hnumber (Nat.not_lt.mp hlimit))
  · intro number hreads
    exact ⟨hflows.start_le number, now_lt_of_reads hends hearlier hreads⟩
  · intro number hreads hreturns
    calc (rounds number).done
        ≤ (rounds number).now + time readTimeout := hreturns
      _ < start + time readTimeout + time readTimeout :=
          Nat.add_lt_add_right (now_lt_of_reads hends hearlier hreads) _
      _ = start + 2 * time readTimeout := by rw [Nat.two_mul, Nat.add_assoc]
  · intro hover
    cases hends with
    | deadline hlate => exact absurd hover (Nat.not_lt.mpr hlate)
    | closed _ hread => exact .inl ⟨rfl, hread⟩
    | timedOut _ hread => exact .inr ⟨rfl, .inl hread⟩
    | failed cause _ hread => exact .inr ⟨rfl, .inr ⟨cause, hread⟩⟩
  · intro hsending
    obtain ⟨rfl, hlate⟩ := hends.eq_deadline fun hread =>
      hsending last (reads_iff.mpr (.inr ⟨rfl, hread⟩))
    exact ⟨rfl, hlate⟩

section Example

/-- A peer that sends a byte again and again; one of the reads is interrupted. -/
private def steadyRounds (number : Nat) : LingerRound where
  now := 5 + 30 * number
  read := if number = 1 then .interrupted else .chunk [120]
  done := 25 + 30 * number

/-- The read that begins at 95 is the last one and ends at 115, behind the deadline. -/
theorem lingers_of_steadyRounds :
    Flows 5 steadyRounds ∧ endBefore? (5 + 100) steadyRounds 9 = some (4, .deadline) ∧
      Lingers 5 100 steadyRounds 4 .deadline := by
  have hflows : Flows 5 steadyRounds := by
    refine ⟨Nat.le_refl 5, fun number => ?_, fun number => ?_, fun bound => ⟨bound, ?_⟩⟩ <;>
      simp only [steadyRounds] <;> lia
  have hend : endBefore? (5 + 100) steadyRounds 9 = some (4, .deadline) := by decide
  obtain ⟨last, reason, hlingers⟩ := lingers_of_flows hflows (some 100)
  have hlast := (hlingers.ends 9).symm.trans hend
  split at hlast
  · obtain ⟨rfl, rfl⟩ := Prod.mk.inj (Option.some.inj hlast)
    exact ⟨hflows, hend, hlingers⟩
  · cases hlast

end Example

end Linger

end LineLog
