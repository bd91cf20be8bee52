import LineLog.Proofs.Run
import LineLog.Ticker.Timed
import Mathlib.Data.List.Infix

/-!
# The cadence of the ticker

An attempt to append is never made before its deadline, and the next deadline is at least an
interval later and not before the present.  So the earliest moment at which the next attempt
can be made only moves on, and by an interval at least with every attempt: that bounds the
attempts in any stretch of time, however late the ticker is.  A ticker that is never later
than an interval does not drift.
-/

namespace LineLog

/-- An element of a list with one more is that one or an element of the list before. -/
theorem getElem?_snoc {Element : Type} {elements : List Element} {last element : Element}
    {index : Nat} (helement : (elements ++ [last])[index]? = some element) :
    elements[index]? = some element ∨ index = elements.length ∧ last = element := by
  rw [List.getElem?_append] at helement
  split at helement
  · exact .inl helement
  · obtain ⟨hindex, hlast⟩ := List.getElem?_eq_some_iff.mp helement
    simp only [List.length_singleton] at hindex
    exact .inr ⟨by omega, by simpa using hlast⟩

namespace Clock

theorem eq_of_within? {moment reading : Nanoseconds} (hwithin : within? moment = some reading) :
    reading = moment :=
  (Option.some.inj (Option.ite_none_right_eq_some.mp hwithin).2).symm

end Clock

namespace Ticker

variable {interval start now : Nanoseconds} {ticker following : Ticker}

theorem eq_of_start? (hstart : start? interval start = some ticker) :
    ticker = ⟨interval, start + interval⟩ := by
  obtain ⟨deadline, hwithin, rfl⟩ := Option.map_eq_some_iff.mp hstart
  rw [Clock.eq_of_within? hwithin]

/-- The next deadline comes an interval after the last one, unless that is over already. -/
theorem eq_of_advance? (hadvance : ticker.advance? now = some following) :
    following.interval = ticker.interval ∧
      following.deadline =
        if ticker.deadline + ticker.interval < now then now + ticker.interval
        else ticker.deadline + ticker.interval := by
  obtain ⟨next, hnext, hrest⟩ := Option.bind_eq_some_iff.mp hadvance
  obtain rfl := Clock.eq_of_within? hnext
  split at hrest
  · next hlate =>
    obtain ⟨restart, hrestart, hfollowing⟩ := Option.bind_eq_some_iff.mp hrest
    obtain rfl := Clock.eq_of_within? hrestart
    obtain rfl := Option.some.inj hfollowing
    exact ⟨rfl, (if_pos hlate).symm⟩
  · next hontime =>
    obtain rfl := Option.some.inj hrest
    exact ⟨rfl, (if_neg hontime).symm⟩

/-- The next deadline is an interval away at least, and not in the past. -/
theorem le_deadline_of_advance? (hadvance : ticker.advance? now = some following) :
    ticker.deadline + ticker.interval ≤ following.deadline ∧ now ≤ following.deadline := by
  rw [(eq_of_advance? hadvance).2]
  split <;> lia

end Ticker

namespace TickerPhase

variable {phase following : TickerPhase}

theorem eq_of_next_look {stopping : Bool} (hnext : phase.next (.look stopping) = some following) :
    phase = .waiting ∧ following = if stopping then .ended .returned else .appending := by
  cases phase with
  | waiting =>
      cases stopping with
      | true | false => exact ⟨rfl, (Option.some.inj hnext).symm⟩
  | _ => cases hnext

theorem eq_of_next_append (hnext : phase.next .append = some following) :
    phase = .appending ∧ following = .scheduling := by
  cases phase with
  | appending => exact ⟨rfl, (Option.some.inj hnext).symm⟩
  | _ => cases hnext

theorem eq_of_next_schedule (hnext : phase.next .schedule = some following) :
    phase = .scheduling ∧ following = .waiting := by
  cases phase with
  | scheduling => exact ⟨rfl, (Option.some.inj hnext).symm⟩
  | _ => cases hnext

end TickerPhase

/-- An event without what matters to the log alone. -/
def TimedEvent.timing : TimedEvent → TimedEvent
  | .append _ _ => .append .none []
  | .change _ => .change id
  | event => event

namespace TimedTicker

variable {interval start : Nanoseconds} {state after : TimedTicker} {event : TimedEvent}
  {events : List TimedEvent}

inductive Stepped (state : TimedTicker) : TimedEvent → TimedTicker → Prop where
  | passed (time : Nanoseconds) : Stepped state (.pass time) { state with now := state.now + time }
  | triggered : Stepped state .trigger { state with stopping := true }
  | changed (change : Log → Log) :
      Stepped state (.change change) { state with log := change state.log }
  | waited (hphase : state.phase = .waiting) :
      Stepped state .wait { state with wakes := some (state.now + state.ticker.wait state.now) }
  | stopped (hphase : state.phase = .waiting) (hstopping : state.stopping) :
      Stepped state .look { state with phase := .ended .returned, wakes := none }
  | due (moment : Nanoseconds) (hphase : state.phase = .waiting)
      (hwakes : state.wakes = some moment) (hgoing : state.stopping = false)
      (hdue : moment ≤ state.now) :
      Stepped state .look { state with phase := .appending, wakes := none }
  | appended (obstacles : Obstacles) (record : Bytes) (hphase : state.phase = .appending) :
      Stepped state (.append obstacles record)
        { state with
          phase := .scheduling
          log := (state.log.append obstacles record).1
          attempts := state.attempts ++ [state.now] }
  | advanced (ticker : Ticker) (hphase : state.phase = .scheduling)
      (hadvance : state.ticker.advance? state.now = some ticker) :
      Stepped state .schedule
        { state with
          ticker
          phase := .waiting
          rounds := state.rounds ++ [⟨state.ticker.deadline, state.now⟩] }
  | overflowed (hphase : state.phase = .scheduling)
      (hadvance : state.ticker.advance? state.now = none) :
      Stepped state .schedule { state with phase := .ended .panicked }

/-- Every step of the ticker is one of those listed. -/
theorem stepped_of_next (hnext : state.next event = some after) : Stepped state event after := by
  cases event with
  | pass time =>
      obtain rfl := Option.some.inj hnext
      exact .passed time
  | trigger =>
      obtain rfl := Option.some.inj hnext
      exact .triggered
  | change change =>
      obtain rfl := Option.some.inj hnext
      exact .changed change
  | wait =>
      unfold next at hnext
      dsimp only at hnext
      split at hnext
      · next hphase hwakes =>
        obtain rfl := Option.some.inj hnext
        exact .waited hphase
      · cases hnext
  | look =>
      obtain ⟨hawakes, hlook⟩ := Option.ite_none_right_eq_some.mp hnext
      obtain ⟨phase, hturn, rfl⟩ := Option.map_eq_some_iff.mp hlook
      obtain ⟨hphase, rfl⟩ := TickerPhase.eq_of_next_look hturn
      split
      · next hstopping => exact .stopped hphase hstopping
      · next hgoing =>
        have hgoing : state.stopping = false := Bool.eq_false_iff.mpr hgoing
        unfold awakes at hawakes
        split at hawakes
        · cases hawakes
        · next moment hwakes =>
          rw [hgoing, Bool.false_or] at hawakes
          exact .due moment hphase hwakes hgoing (of_decide_eq_true hawakes)
  | append obstacles record =>
      obtain ⟨phase, hturn, rfl⟩ := Option.map_eq_some_iff.mp hnext
      obtain ⟨hphase, rfl⟩ := TickerPhase.eq_of_next_append hturn
      exact .appended obstacles record hphase
  | schedule =>
      obtain ⟨phase, hturn, hadvance⟩ := Option.bind_eq_some_iff.mp hnext
      obtain ⟨hphase, rfl⟩ := TickerPhase.eq_of_next_schedule hturn
      split at hadvance
      · next ticker hticker =>
        obtain rfl := Option.some.inj hadvance
        exact .advanced ticker hphase hticker
      · next hnone =>
        rw [hphase] at hadvance
        obtain rfl := Option.some.inj hadvance
        exact .overflowed hphase hnone

/-- What holds of a ticker wherever it is in a round. -/
structure Punctual (interval : Nanoseconds) (state : TimedTicker) : Prop where
  interval_eq : state.ticker.interval = interval
  wakes : ∀ moment, state.wakes = some moment →
    state.phase = .waiting ∧ state.ticker.deadline ≤ moment
  due : state.phase = .appending → state.ticker.deadline ≤ state.now
  length_eq : match state.phase with
    | .waiting | .appending => state.attempts.length = state.rounds.length
    | .scheduling => state.attempts.length = state.rounds.length + 1
    | .ended _ => state.rounds.length ≤ state.attempts.length

/-- What holds of a ticker within its round holds after every step. -/
theorem Punctual.next (hpunctual : state.Punctual interval)
    (hnext : state.next event = some after) :
    after.Punctual interval := by
  obtain ⟨hinterval, hwakes, hdue, hlength⟩ := hpunctual
  cases stepped_of_next hnext with
  | passed time =>
      refine ⟨hinterval, hwakes, fun hphase => ?_, hlength⟩
      exact Nat.le_add_right_of_le (hdue hphase)
  | triggered => exact ⟨hinterval, hwakes, hdue, hlength⟩
  | changed change => exact ⟨hinterval, hwakes, hdue, hlength⟩
  | waited hphase =>
      refine ⟨hinterval, fun moment hmoment => ⟨hphase, ?_⟩, hdue, hlength⟩
      obtain rfl := Option.some.inj hmoment
      unfold Ticker.wait
      lia
  | stopped hphase hstopping =>
      rw [hphase] at hlength
      exact ⟨hinterval, nofun, nofun, Nat.le_of_eq hlength.symm⟩
  | due moment hphase hmoment hgoing hover =>
      rw [hphase] at hlength
      exact ⟨hinterval, nofun, fun _ => Nat.le_trans (hwakes moment hmoment).2 hover, hlength⟩
  | appended obstacles record hphase =>
      rw [hphase] at hlength
      refine ⟨hinterval, fun moment hmoment => ?_, nofun, ?_⟩
      · cases hphase.symm.trans (hwakes moment hmoment).1
      · exact (List.length_append).trans (congrArg (· + 1) hlength)
  | advanced ticker hphase hadvance =>
      rw [hphase] at hlength
      refine ⟨(Ticker.eq_of_advance? hadvance).1.trans hinterval, fun moment hmoment => ?_, nofun,
        ?_⟩
      · cases hphase.symm.trans (hwakes moment hmoment).1
      · rw [List.length_append]
        exact hlength
  | overflowed hphase hadvance =>
      rw [hphase] at hlength
      refine ⟨hinterval, fun moment hmoment => ?_, nofun, ?_⟩
      · cases hphase.symm.trans (hwakes moment hmoment).1
      · exact Nat.le_of_lt (Nat.lt_of_succ_le (Nat.le_of_eq hlength.symm))

theorem Punctual.length_le (hpunctual : state.Punctual interval) :
    state.rounds.length ≤ state.attempts.length := by
  have hlength := hpunctual.length_eq
  split at hlength <;> omega

theorem punctual_initial (interval start : Nanoseconds) (log : Log) :
    (initial ⟨interval, start + interval⟩ start log).Punctual interval where
  interval_eq := rfl
  wakes := nofun
  due := nofun
  length_eq := rfl

/-- The earliest moment at which the next attempt can be made. -/
def soonest (state : TimedTicker) : Nanoseconds :=
  match state.phase with
  | .waiting | .appending => state.ticker.deadline
  | .scheduling | .ended _ => max (state.ticker.deadline + state.ticker.interval) state.now

/-- An attempt is not made too soon, and the next one must wait for an interval; nothing else
lets it be made sooner. -/
theorem attempts_of_next (hpunctual : state.Punctual interval)
    (hnext : state.next event = some after) :
    (after.attempts = state.attempts ∧ state.soonest ≤ after.soonest) ∨
      (after.attempts = state.attempts ++ [state.now] ∧ state.soonest ≤ state.now ∧
        state.now ≤ after.soonest ∧ state.soonest + interval ≤ after.soonest) := by
  have hinterval := hpunctual.interval_eq
  cases stepped_of_next hnext with
  | passed time =>
      refine .inl ⟨rfl, ?_⟩
      cases hphase : state.phase with
      | waiting | appending => simp [soonest, hphase]
      | scheduling | ended =>
          simp only [soonest, hphase]
          exact Nat.max_le.mpr ⟨Nat.le_max_left _ _,
            Nat.le_trans (Nat.le_add_right _ _) (Nat.le_max_right _ _)⟩
  | triggered => exact .inl ⟨rfl, Nat.le_refl _⟩
  | changed change => exact .inl ⟨rfl, Nat.le_refl _⟩
  | waited hphase => exact .inl ⟨rfl, Nat.le_refl _⟩
  | stopped hphase hstopping =>
      refine .inl ⟨rfl, ?_⟩
      simp only [soonest, hphase]
      exact Nat.le_trans (Nat.le_add_right _ _) (Nat.le_max_left _ _)
  | due moment hphase hmoment hgoing hover =>
      refine .inl ⟨rfl, ?_⟩
      simp only [soonest, hphase]
      exact Nat.le_refl _
  | appended obstacles record hphase =>
      refine .inr ⟨rfl, ?_⟩
      simp only [soonest, hphase, ← hinterval]
      exact ⟨hpunctual.due hphase, Nat.le_max_right _ _, Nat.le_max_left _ _⟩
  | advanced ticker hphase hadvance =>
      obtain ⟨hlast, hnow⟩ := Ticker.le_deadline_of_advance? hadvance
      refine .inl ⟨rfl, ?_⟩
      simp only [soonest, hphase]
      exact Nat.max_le.mpr ⟨hlast, hnow⟩
  | overflowed hphase hadvance =>
      refine .inl ⟨rfl, ?_⟩
      simp only [soonest, hphase]
      exact Nat.le_refl _

theorem punctual_of_run {log : Log}
    (hrun : (initial ⟨interval, start + interval⟩ start log).run events = some state) :
    state.Punctual interval :=
  foldlM_induction (fun _ => Punctual interval) (punctual_initial interval start log)
    (fun _ _ _ _ _ hpunctual hnext => hpunctual.next hnext) hrun

/-- What holds of the attempts and of the earliest moment of the next one throughout a run. -/
theorem attempts_induction {log : Log} (Holds : List Nanoseconds → Nanoseconds → Prop)
    (hstart : Holds [] (start + interval))
    (hlater : ∀ attempts soonest later, Holds attempts soonest → soonest ≤ later →
      Holds attempts later)
    (hattempt : ∀ attempts soonest moment later, Holds attempts soonest → soonest ≤ moment →
      moment ≤ later → soonest + interval ≤ later → Holds (attempts ++ [moment]) later)
    (hrun : (initial ⟨interval, start + interval⟩ start log).run events = some state) :
    Holds state.attempts state.soonest := by
  refine foldlM_induction (fun _ state => Holds state.attempts state.soonest) hstart ?_ hrun
  intro events state event after hearlier hholds hnext
  rcases attempts_of_next (punctual_of_run hearlier) hnext with
    ⟨hsame, hmono⟩ | ⟨hadded, hsoonest, hmoment, hspaced⟩
  · rw [hsame]
    exact hlater _ _ _ hholds hmono
  · rw [hadded]
    exact hattempt _ _ _ _ hholds hsoonest hmoment hspaced

/-- Every attempt takes its turn: the first one an interval after the start, and every other
one an interval later at least. -/
theorem le_attempt_of_run {log : Log}
    (hrun : (initial ⟨interval, start + interval⟩ start log).run events = some state)
    {index : Nat} {moment : Nanoseconds} (hmoment : state.attempts[index]? = some moment) :
    start + (index + 1) * interval ≤ moment := by
  let Holds (attempts : List Nanoseconds) (soonest : Nanoseconds) : Prop :=
    start + (attempts.length + 1) * interval ≤ soonest ∧
      ∀ (index : Nat) moment, attempts[index]? = some moment →
        start + (index + 1) * interval ≤ moment
  have hholds : Holds state.attempts state.soonest := by
    refine attempts_induction Holds ⟨by simp, by simp⟩ ?_ ?_ hrun
    · intro attempts soonest later hholds hlater
      exact ⟨Nat.le_trans hholds.1 hlater, hholds.2⟩
    · intro attempts soonest moment later ⟨hnext, hearlier⟩ hmoment hlater hspaced
      refine ⟨?_, fun index other hother => ?_⟩
      · rw [List.length_append, List.length_singleton, Nat.succ_mul, ← Nat.add_assoc]
        exact Nat.le_trans (Nat.add_le_add_right hnext interval) hspaced
      · rcases getElem?_snoc hother with hold | ⟨rfl, rfl⟩
        · exact hearlier index other hold
        · exact Nat.le_trans hnext hmoment
  exact hholds.2 index moment hmoment

/-- Moments that take their turns are few. -/
theorem countP_le_div {time : Nat} {moments : List Nanoseconds} (hpositive : 0 < interval)
    (hturns : ∀ (index : Nat) moment, moments[index]? = some moment →
      start + (index + 1) * interval ≤ moment) :
    moments.countP (· ≤ start + time) ≤ time / interval := by
  induction moments using List.reverseRecOn with
  | nil => exact Nat.zero_le _
  | append_singleton moments moment ih =>
      have hearlier := ih fun index other hother => hturns index other (by
        rw [List.getElem?_append_left (List.getElem?_eq_some_iff.mp hother).1]
        exact hother)
      have hlast := hturns moments.length moment (by simp)
      rw [List.countP_append, List.countP_singleton]
      split
      · next hwithin =>
        have hwithin : moment ≤ start + time := of_decide_eq_true hwithin
        have hturn : (moments.length + 1) * interval ≤ time := by lia
        have hbound := (Nat.le_div_iff_mul_le hpositive).mpr hturn
        exact Nat.le_trans (Nat.add_le_add_right List.countP_le_length 1) hbound
      · exact hearlier

/-- However late the ticker is, it makes up for at most one attempt. -/
theorem countP_window_le {log : Log} (hpositive : 0 < interval)
    (hrun : (initial ⟨interval, start + interval⟩ start log).run events = some state)
    (first time : Nat) :
    state.attempts.countP (fun moment => first ≤ moment ∧ moment ≤ first + time) ≤
      time / interval + 2 := by
  let since (attempts : List Nanoseconds) : Nat := attempts.countP (first ≤ ·)
  let within (attempts : List Nanoseconds) : Nat :=
    attempts.countP fun moment => first ≤ moment ∧ moment ≤ first + time
  -- of the attempts since `first`, all but the earliest have waited for an interval
  let Holds (attempts : List Nanoseconds) (soonest : Nanoseconds) : Prop :=
    (0 < since attempts → first + since attempts * interval ≤ soonest + interval) ∧
      within attempts ≤ time / interval + 2
  have hholds : Holds state.attempts state.soonest := by
    refine attempts_induction Holds ⟨nofun, Nat.zero_le _⟩ ?_ ?_ hrun
    · intro attempts soonest later ⟨hsince, hwithin⟩ hlater
      exact ⟨fun hsome => Nat.le_trans (hsince hsome) (Nat.add_le_add_right hlater _), hwithin⟩
    · intro attempts soonest moment later ⟨hsince, hwithin⟩ hmoment hlater hspaced
      have hfewer : within attempts ≤ since attempts :=
        List.countP_mono_left fun moment _ hin => decide_eq_true (of_decide_eq_true hin).1
      have hturns : since attempts * interval = 0 ∨
          first + since attempts * interval ≤ soonest + interval := by
        rcases Nat.eq_zero_or_pos (since attempts) with hnone | hsome
        · exact .inl (by rw [hnone, Nat.zero_mul])
        · exact .inr (hsince hsome)
      simp only [Holds, since, within, List.countP_append, List.countP_singleton,
        decide_eq_true_eq] at hsince hwithin hfewer hturns ⊢
      by_cases hfirst : first ≤ moment
      · rw [if_pos hfirst]
        refine ⟨fun _ => ?_, ?_⟩
        · rw [Nat.succ_mul]
          lia
        · split
          · next hin =>
            have hbound : attempts.countP (first ≤ ·) * interval ≤ time + interval := by lia
            have hcount := (Nat.le_div_iff_mul_le hpositive).mpr hbound
            rw [Nat.add_div_right _ hpositive] at hcount
            lia
          · exact hwithin
      · have hout : ¬ (first ≤ moment ∧ moment ≤ first + time) := fun hin => hfirst hin.1
        rw [if_neg hfirst, if_neg hout]
        exact ⟨fun hsome => Nat.le_trans (hsince hsome) (by lia), hwithin⟩
  exact hholds.2

/-! ## The deadlines -/

theorem length_deadlines (state : TimedTicker) :
    state.deadlines.length = state.rounds.length + 1 := by
  simp [deadlines]

theorem deadlines_getElem? {index : Nat} {round : TickerRound}
    (hround : state.rounds[index]? = some round) :
    state.deadlines[index]? = some round.deadline := by
  have hindex := (List.getElem?_eq_some_iff.mp hround).1
  rw [deadlines, List.getElem?_append_left (by simpa using hindex), List.getElem?_map, hround]
  rfl

/-- The first deadline comes an interval after the start, and every other one is set from the
one before it and from what the clock read then. -/
structure Scheduled (interval start : Nanoseconds) (state : TimedTicker) : Prop where
  first : state.deadlines[0]? = some (start + interval)
  following : ∀ (index : Nat) round deadline, state.rounds[index]? = some round →
    state.deadlines[index + 1]? = some deadline →
      Ticker.advance? round.reading ⟨interval, round.deadline⟩ = some ⟨interval, deadline⟩

/-- A new deadline is set from the last one and from what the clock reads. -/
theorem Scheduled.next (hscheduled : state.Scheduled interval start)
    (hpunctual : state.Punctual interval) (hnext : state.next event = some after) :
    after.Scheduled interval start := by
  cases stepped_of_next hnext with
  | passed | triggered | changed | waited | stopped | due | appended | overflowed =>
      exact ⟨hscheduled.first, hscheduled.following⟩
  | advanced ticker hphase hadvance =>
      let last : TickerRound := ⟨state.ticker.deadline, state.now⟩
      have hlast : Ticker.advance? last.reading ⟨interval, last.deadline⟩ =
          some ⟨interval, ticker.deadline⟩ := by
        rw [← hpunctual.interval_eq, hadvance, ← (Ticker.eq_of_advance? hadvance).1]
      have hdeadlines : (state.rounds ++ [last]).map (·.deadline) ++ [ticker.deadline] =
          state.deadlines ++ [ticker.deadline] := by
        rw [List.map_append]
        rfl
      have hlength := state.length_deadlines
      refine ⟨?_, fun index round deadline hround hdeadline => ?_⟩
      · rw [deadlines, hdeadlines, List.getElem?_append_left (by omega)]
        exact hscheduled.first
      · rw [deadlines, hdeadlines] at hdeadline
        rcases getElem?_snoc hround with hround | ⟨rfl, rfl⟩
        · have hindex := (List.getElem?_eq_some_iff.mp hround).1
          rcases getElem?_snoc hdeadline with hdeadline | ⟨hend, -⟩
          · exact hscheduled.following index round deadline hround hdeadline
          · omega
        · rcases getElem?_snoc hdeadline with hdeadline | ⟨-, rfl⟩
          · have hindex := (List.getElem?_eq_some_iff.mp hdeadline).1
            omega
          · exact hlast

/-- On every run the deadlines follow from the readings. -/
theorem scheduled_of_run {log : Log}
    (hrun : (initial ⟨interval, start + interval⟩ start log).run events = some state) :
    state.Scheduled interval start :=
  foldlM_induction (fun _ => Scheduled interval start) ⟨rfl, by simp [initial]⟩
    (fun _ _ _ _ hearlier hscheduled hnext => hscheduled.next (punctual_of_run hearlier) hnext) hrun

/-- Deadlines are at least an interval apart, and none is set in the past. -/
theorem Scheduled.spaced (hscheduled : state.Scheduled interval start) {index : Nat}
    {round : TickerRound} {deadline : Nanoseconds} (hround : state.rounds[index]? = some round)
    (hdeadline : state.deadlines[index + 1]? = some deadline) :
    round.deadline + interval ≤ deadline ∧ round.reading ≤ deadline :=
  Ticker.le_deadline_of_advance? (hscheduled.following index round deadline hround hdeadline)

/-- Deadlines that are kept do not drift. -/
theorem Scheduled.eq_of_onTime (hscheduled : state.Scheduled interval start)
    (hontime : ∀ round ∈ state.rounds, round.reading ≤ round.deadline + interval) {index : Nat}
    {deadline : Nanoseconds} (hdeadline : state.deadlines[index]? = some deadline) :
    deadline = start + (index + 1) * interval := by
  induction index generalizing deadline with
  | zero =>
      obtain rfl := Option.some.inj (hdeadline.symm.trans hscheduled.first)
      rw [Nat.zero_add, Nat.one_mul]
  | succ index ih =>
      have hindex := (List.getElem?_eq_some_iff.mp hdeadline).1
      rw [length_deadlines] at hindex
      obtain ⟨round, hround⟩ : ∃ round, state.rounds[index]? = some round :=
        ⟨_, List.getElem?_eq_getElem (Nat.lt_of_succ_lt_succ hindex)⟩
      have hbefore := ih (deadlines_getElem? hround)
      have hlate := hontime round (List.mem_of_getElem? hround)
      have hnext := (Ticker.eq_of_advance?
        (hscheduled.following index round deadline hround hdeadline)).2
      rw [if_neg (Nat.not_lt.mpr hlate)] at hnext
      calc
        deadline = round.deadline + interval := hnext
        _ = start + (index + 1 + 1) * interval := by
          rw [hbefore, Nat.succ_mul (index + 1), Nat.add_assoc]

/-! ## A ticker that is on time -/

/-- As long as shutdown is not requested, no round lasts longer than until an interval after its
deadline. -/
def OnTime (origin : TimedTicker) (events : List TimedEvent) : Prop :=
  ∀ before moment, before <+: events → origin.run before = some moment →
    moment.stopping = false → moment.now ≤ moment.ticker.deadline + moment.ticker.interval

/-- Every moment belongs to a round that is over in the end, or to the present one. -/
theorem round_of_moment {moment : TimedTicker} (hrun : moment.run events = some state) :
    (moment.ticker = state.ticker ∧ moment.now ≤ state.now) ∨
      ∃ round ∈ state.rounds, round.deadline = moment.ticker.deadline ∧
        moment.now ≤ round.reading := by
  refine foldlM_induction (fun _ later => (moment.ticker = later.ticker ∧ moment.now ≤ later.now) ∨
    ∃ round ∈ later.rounds, round.deadline = moment.ticker.deadline ∧
      moment.now ≤ round.reading) (.inl ⟨rfl, Nat.le_refl _⟩) ?_ hrun
  intro events later event after _ hround hnext
  cases stepped_of_next hnext with
  | passed time =>
      exact hround.imp_left fun ⟨hticker, hnow⟩ => ⟨hticker, Nat.le_add_right_of_le hnow⟩
  | triggered | changed | waited | stopped | due | appended | overflowed => exact hround
  | advanced ticker hphase hadvance =>
      refine .inr ?_
      rcases hround with ⟨hticker, hnow⟩ | ⟨round, hmem, hround⟩
      · exact ⟨⟨later.ticker.deadline, later.now⟩, by simp, by rw [hticker], hnow⟩
      · exact ⟨round, List.mem_append_left _ hmem, hround⟩

/-- A ticker whose readings are all in time, and whose present round is in time so far, has
been on time throughout. -/
theorem onTime_of_rounds {log : Log}
    (hrun : (initial ⟨interval, start + interval⟩ start log).run events = some state)
    (hrounds : ∀ round ∈ state.rounds, round.reading ≤ round.deadline + interval)
    (hpresent : state.now ≤ state.ticker.deadline + interval) :
    OnTime (initial ⟨interval, start + interval⟩ start log) events := by
  rintro before moment ⟨rest, rfl⟩ hmoment -
  obtain ⟨middle, hbefore, hrest⟩ := foldlM_append_eq_some_iff.mp hrun
  obtain rfl := Option.some.inj (hmoment.symm.trans hbefore)
  rw [(punctual_of_run hmoment).interval_eq]
  rcases round_of_moment hrest with ⟨hticker, hnow⟩ | ⟨round, hmem, hdeadline, hnow⟩
  · rw [hticker]
    exact hnow.trans hpresent
  · rw [← hdeadline]
    exact hnow.trans (hrounds round hmem)

/-- Shutdown is not requested until `moment` is over. -/
def GoesOn (origin : TimedTicker) (events : List TimedEvent) (moment : Nanoseconds) : Prop :=
  ∀ before state, before <+: events → origin.run before = some state →
    state.now ≤ moment → state.stopping = false

theorem stopping_of_next (hnext : state.next event = some after) (hgoing : after.stopping = false) :
    state.stopping = false := by
  cases stepped_of_next hnext <;> first | exact hgoing | cases hgoing

/-- A run is on time only if it has been so from the beginning. -/
theorem OnTime.of_prefix {origin : TimedTicker} {before : List TimedEvent}
    (hontime : OnTime origin events) (hfront : before <+: events) : OnTime origin before :=
  fun earlier moment hearlier => hontime earlier moment (hearlier.trans hfront)

theorem GoesOn.of_prefix {origin : TimedTicker} {before : List TimedEvent} {moment : Nanoseconds}
    (hgoes : GoesOn origin events moment) (hfront : before <+: events) :
    GoesOn origin before moment :=
  fun earlier state hearlier => hgoes earlier state (hearlier.trans hfront)

/-- It is enough to look at the states on the way. -/
theorem goesOn_of_inits {origin : TimedTicker} {moment : Nanoseconds}
    (hchecks : events.inits.all fun before => (origin.run before).all fun state =>
      moment < state.now || !state.stopping) : GoesOn origin events moment := by
  intro before state hfront hstate hearly
  have hcheck := List.all_eq_true.mp hchecks before ((List.mem_inits before _).mpr hfront)
  rw [hstate, Option.all_some] at hcheck
  simpa [Nat.not_lt.mpr hearly] using hcheck

/-- The attempts of a ticker whose rounds have all been on time: none is missing that was due
an interval before the end of `time`. -/
structure Kept (interval start time : Nat) (state : TimedTicker) : Prop where
  reading : ∀ round ∈ state.rounds, round.reading ≤ round.deadline + interval
  attempts : min state.attempts.length (time / interval - 1) ≤
    state.attempts.countP (· ≤ start + time)

theorem Kept.deadline_eq {time : Nat} (hkept : state.Kept interval start time)
    (hscheduled : state.Scheduled interval start) :
    state.ticker.deadline = start + (state.rounds.length + 1) * interval :=
  hscheduled.eq_of_onTime hkept.reading (by simp [deadlines])

/-- Once the time is over, the rounds of a ticker that is on time are nearly as many as they
can be. -/
theorem Kept.rounds_ge {time : Nat} (hpositive : 0 < interval)
    (hkept : state.Kept interval start time) (hscheduled : state.Scheduled interval start)
    (hontime : state.now ≤ state.ticker.deadline + interval) (hover : start + time < state.now) :
    time / interval - 1 ≤ state.rounds.length := by
  have hturn : time < (state.rounds.length + 2) * interval := by
    rw [hkept.deadline_eq hscheduled] at hontime
    rw [Nat.succ_mul]
    lia
  have hcount := (Nat.div_lt_iff_lt_mul hpositive).mpr hturn
  omega

/-- A step of a ticker that is on time. -/
theorem Kept.next {time : Nat} (hpositive : 0 < interval) (hkept : state.Kept interval start time)
    (hscheduled : state.Scheduled interval start) (hpunctual : state.Punctual interval)
    (hontime : state.now ≤ state.ticker.deadline + interval)
    (hnext : state.next event = some after) : after.Kept interval start time := by
  have hrounds := hkept.rounds_ge hpositive hscheduled hontime
  obtain ⟨hreading, hattempts⟩ := hkept
  cases stepped_of_next hnext with
  | passed | triggered | changed | waited | stopped | due | overflowed =>
      exact ⟨hreading, hattempts⟩
  | appended obstacles record hphase =>
      refine ⟨hreading, ?_⟩
      have hlength := hpunctual.length_eq
      rw [hphase] at hlength
      rw [List.length_append, List.length_singleton, List.countP_append, List.countP_singleton]
      split
      · omega
      · next hlate =>
        -- an attempt that is too late to count need not count
        have henough := hrounds (Nat.lt_of_not_le fun hintime => hlate (decide_eq_true hintime))
        omega
  | advanced ticker hphase hadvance =>
      refine ⟨fun round hround => ?_, hattempts⟩
      rcases List.mem_append.mp hround with hround | hround
      · exact hreading round hround
      · obtain rfl := List.mem_singleton.mp hround
        exact hontime

/-- Time does not pass in the step that requests shutdown. -/
theorem now_eq_or_stopping_eq (hnext : state.next event = some after) :
    after.now = state.now ∨ after.stopping = state.stopping := by
  cases stepped_of_next hnext <;> first | exact .inl rfl | exact .inr rfl

/-- A ticker that is on time leaves out no attempt but the one that is due in the end. -/
theorem attempts_of_onTime {log : Log} (hpositive : 0 < interval) {time : Nat}
    (hrun : (initial ⟨interval, start + interval⟩ start log).run events = some state)
    (hontime : OnTime (initial ⟨interval, start + interval⟩ start log) events)
    (hgoes : GoesOn (initial ⟨interval, start + interval⟩ start log) events (start + time)) :
    (state.stopping = false → state.Kept interval start time) ∧
      (start + time < state.now →
        time / interval - 1 ≤ state.attempts.countP (· ≤ start + time)) := by
  let origin := initial ⟨interval, start + interval⟩ start log
  let Holds (events : List TimedEvent) (state : TimedTicker) : Prop :=
    OnTime origin events → GoesOn origin events (start + time) →
      (state.stopping = false → state.Kept interval start time) ∧
        (start + time < state.now →
          time / interval - 1 ≤ state.attempts.countP (· ≤ start + time))
  refine foldlM_induction Holds ?_ ?_ hrun hontime hgoes
  · exact fun _ _ => ⟨fun _ => ⟨by simp [initial], by simp [initial]⟩,
      fun hover => absurd hover (Nat.not_lt.mpr (Nat.le_add_right _ _))⟩
  · intro events state event after hearlier hholds hnext hontime hgoes
    have hfront : events <+: events ++ [event] := List.prefix_append _ _
    obtain ⟨hkept, hover⟩ := hholds (hontime.of_prefix hfront) (hgoes.of_prefix hfront)
    have hafter : origin.run (events ++ [event]) = some after :=
      foldlM_snoc_eq_some_iff.mpr ⟨state, hearlier, hnext⟩
    have hpunctual := punctual_of_run hearlier
    have hscheduled := scheduled_of_run hearlier
    have hkeeps (hgoing : after.stopping = false) : after.Kept interval start time := by
      have hbefore := stopping_of_next hnext hgoing
      have hnow := hontime events state hfront hearlier hbefore
      rw [hpunctual.interval_eq] at hnow
      exact (hkept hbefore).next hpositive hscheduled hpunctual hnow hnext
    refine ⟨hkeeps, fun hlate => ?_⟩
    by_cases hbefore : start + time < state.now
    · refine Nat.le_trans (hover hbefore) ?_
      rcases attempts_of_next hpunctual hnext with ⟨hsame, -⟩ | ⟨hadded, -⟩
      · exact Nat.le_of_eq (by rw [hsame])
      · rw [hadded, List.countP_append]
        exact Nat.le_add_right _ _
    · -- the time is over with this step, so shutdown has not been requested yet
      have hgoing : after.stopping = false := by
        rcases now_eq_or_stopping_eq hnext with hnow | hsame
        · exact absurd (hnow ▸ hlate) hbefore
        · exact hsame.trans (hgoes events state hfront hearlier (Nat.not_lt.mp hbefore))
      have hnow := hontime _ after (List.prefix_refl _) hafter hgoing
      rw [(punctual_of_run hafter).interval_eq] at hnow
      have hrounds :=
        (hkeeps hgoing).rounds_ge hpositive (scheduled_of_run hafter) hnow hlate
      have hmin := (hkeeps hgoing).attempts
      rwa [Nat.min_eq_right (Nat.le_trans hrounds (punctual_of_run hafter).length_le)] at hmin

/-! ## Failed appends -/

def forget (state : TimedTicker) : TimedTicker :=
  { state with log := .empty }

/-- Tickers that differ in their logs only are the same but for these. -/
theorem eq_of_forget {other : TimedTicker} (hsame : other.forget = state.forget) :
    other = { state with log := other.log } :=
  congrArg (fun ticker : TimedTicker => { ticker with log := other.log }) hsame

/-- What is in the log and what becomes of a record make no difference to the ticker. -/
theorem forget_next (state : TimedTicker) (event : TimedEvent) :
    (state.next event).map forget = (state.forget.next event.timing).map forget := by
  cases event with
  | pass | trigger | change => rfl
  | wait =>
      simp only [next, forget, TimedEvent.timing]
      split <;> rfl
  | look =>
      have hawakes : state.forget.awakes = state.awakes := rfl
      simp only [next, TimedEvent.timing, hawakes]
      split
      · rw [Option.map_map, Option.map_map]
        rfl
      · rfl
  | append obstacles record =>
      simp only [next, TimedEvent.timing]
      rw [Option.map_map, Option.map_map]
      rfl
  | schedule =>
      simp only [next, TimedEvent.timing, forget]
      cases state.phase.next .schedule with
      | none => rfl
      | some phase =>
          simp only [Option.bind_some]
          split
          · rfl
          · rw [Option.map_map, Option.map_map]
            rfl

/-- Runs of tickers that differ only in what concerns their logs differ in nothing else. -/
theorem forget_run {other : TimedTicker} {others : List TimedEvent}
    (hstate : other.forget = state.forget)
    (hevents : others.map TimedEvent.timing = events.map TimedEvent.timing) :
    (other.run others).map forget = (state.run events).map forget := by
  induction events generalizing state other others with
  | nil =>
      obtain rfl := List.map_eq_nil_iff.mp hevents
      exact congrArg some hstate
  | cons event events ih =>
      obtain ⟨first, others, rfl, hfirst, hothers⟩ := List.map_eq_cons_iff.mp hevents
      have hnext : (other.next first).map forget = (state.next event).map forget := by
        rw [forget_next other, forget_next state, hstate, hfirst]
      simp only [run, List.foldlM_cons]
      cases hafter : state.next event with
      | none =>
          rw [hafter, Option.map_none] at hnext
          rw [Option.map_eq_none_iff.mp hnext]
          rfl
      | some after =>
          rw [hafter, Option.map_some] at hnext
          obtain ⟨later, hlater, hsame⟩ := Option.map_eq_some_iff.mp hnext
          rw [hlater]
          exact ih hsame hothers

/-- No attempt to append is made before its turn, so in any time since the start there are at
most as many as intervals fit in.  Deadlines are at least an interval apart and never set in
the past, so in any stretch of time, also after a stall of any length, there are at most two
attempts more than intervals fit in.  If what the clock reads after each attempt is at most
an interval after the deadline, the deadlines are exactly the multiples of the interval; and
if moreover the round is still on time when shutdown is requested, which is not before the
time is over, then at most one attempt is missing.  Time passes anywhere and in any amount,
and all this is the same whatever the log holds and whether the records are appended or
not. -/
theorem cadence_of_run {ticker : Ticker} {log : Log} (hpositive : 0 < interval)
    (hstart : Ticker.start? interval start = some ticker)
    (hrun : (initial ticker start log).run events = some state) :
    ((∀ (index : Nat) moment, state.attempts[index]? = some moment →
          start + (index + 1) * interval ≤ moment) ∧
        ∀ time, state.attempts.countP (· ≤ start + time) ≤ time / interval) ∧
      ((∀ (index : Nat) round deadline, state.rounds[index]? = some round →
          state.deadlines[index + 1]? = some deadline →
            round.deadline + interval ≤ deadline ∧ round.reading ≤ deadline) ∧
        ∀ first time, state.attempts.countP (fun moment => first ≤ moment ∧ moment ≤ first + time) ≤
          time / interval + 2) ∧
      ((∀ round ∈ state.rounds, round.reading ≤ round.deadline + interval) →
        ∀ (index : Nat) deadline, state.deadlines[index]? = some deadline →
          deadline = start + (index + 1) * interval) ∧
      (∀ time, OnTime (initial ticker start log) events →
        GoesOn (initial ticker start log) events (start + time) → start + time < state.now →
          state.attempts.countP (· ≤ start + time) = time / interval ∨
            state.attempts.countP (· ≤ start + time) + 1 = time / interval) ∧
      ∀ otherLog others, others.map TimedEvent.timing = events.map TimedEvent.timing →
        ∃ final, (initial ticker start otherLog).run others = some { state with log := final } := by
  obtain rfl := Ticker.eq_of_start? hstart
  have hscheduled := scheduled_of_run hrun
  have hturns (index : Nat) (moment : Nanoseconds)
      (hmoment : state.attempts[index]? = some moment) :
      start + (index + 1) * interval ≤ moment := le_attempt_of_run hrun hmoment
  have hfew (time : Nat) : state.attempts.countP (· ≤ start + time) ≤ time / interval :=
    countP_le_div hpositive hturns
  refine ⟨⟨hturns, hfew⟩, ⟨fun _ _ _ => hscheduled.spaced, countP_window_le hpositive hrun⟩,
    fun hontime _ _ => hscheduled.eq_of_onTime hontime, ?_, ?_⟩
  · intro time hontime hgoes hover
    have hmany := (attempts_of_onTime hpositive hrun hontime hgoes).2 hover
    have hbound := hfew time
    omega
  · intro otherLog others hevents
    let first : Ticker := ⟨interval, start + interval⟩
    have hsame : ((initial first start otherLog).run others).map forget =
        ((initial first start log).run events).map forget := forget_run rfl hevents
    rw [hrun, Option.map_some] at hsame
    obtain ⟨final, hfinal, hforget⟩ := Option.map_eq_some_iff.mp hsame
    exact ⟨final.log, hfinal.trans (congrArg some (eq_of_forget hforget))⟩

section Example

/-- The first wait ends late, and shutdown is requested before the flag is looked at. -/
private def belatedEvents : List TimedEvent :=
  [.wait, .pass 100, .trigger, .look]

/-- A round that is never over has no reading, so it can be late although no reading is, and then
any number of attempts is missing.  All of them are when shutdown has been requested before the
ticker starts, and not again since. -/
theorem attempts_of_belatedEvents :
    (∃ ticker state, Ticker.start? 10 0 = some ticker ∧
      (initial ticker 0 .empty).run belatedEvents = some state ∧
      (∀ round ∈ state.rounds, round.reading ≤ round.deadline + 10) ∧
      GoesOn (initial ticker 0 .empty) belatedEvents (0 + 99) ∧ 0 + 99 < state.now ∧
      state.phase = .ended .returned ∧ state.attempts.countP (· ≤ 0 + 99) = 0 ∧ 99 / 10 = 9) ∧
    ∃ ticker state, Ticker.start? 10 0 = some ticker ∧
      ({ initial ticker 0 .empty with stopping := true }).run [.wait, .look, .pass 100] =
        some state ∧
      (∀ round ∈ state.rounds, round.reading ≤ round.deadline + 10) ∧ 0 + 99 < state.now ∧
      state.phase = .ended .returned ∧ state.attempts.countP (· ≤ 0 + 99) = 0 :=
  ⟨⟨⟨10, 10⟩, _, rfl, rfl, nofun, goesOn_of_inits rfl, by decide, rfl, rfl, rfl⟩,
    ⟨10, 10⟩, _, rfl, rfl, nofun, by decide, rfl, rfl⟩

/-- The first record cannot be written, the second one is a little late, and shutdown is
requested during the wait for the third one. -/
private def lateEvents : List TimedEvent :=
  [.wait, .pass 10, .look, .append ⟨[.refused Os.Error.noSpace], fun _ => ⟨none, none⟩⟩ [120, 10],
    .pass 1, .schedule, .wait, .pass 12, .look, .append .none [120, 10], .schedule, .wait,
    .pass 5, .trigger, .look]

/-- A late ticker misses one attempt of the two that would fit. -/
theorem cadence_of_lateEvents :
    ∃ ticker state, 0 < 10 ∧ Ticker.start? 10 5 = some ticker ∧
      (initial ticker 5 .empty).run lateEvents = some state ∧
      OnTime (initial ticker 5 .empty) lateEvents ∧
      GoesOn (initial ticker 5 .empty) lateEvents (5 + 20) ∧
      state.attempts = [15, 28] ∧ state.deadlines = [15, 25, 35] ∧
      (state.attempts.countP (· ≤ 5 + 20) = 20 / 10 ∨
        state.attempts.countP (· ≤ 5 + 20) + 1 = 20 / 10) := by
  let state : TimedTicker :=
    { ticker := ⟨10, 35⟩
      phase := .ended .returned
      now := 33
      wakes := none
      stopping := true
      log := (Log.empty.append .none [120, 10]).1
      rounds := [⟨15, 16⟩, ⟨25, 28⟩]
      attempts := [15, 28] }
  have hrun : (initial ⟨10, 15⟩ 5 .empty).run lateEvents = some state := rfl
  have hontime : OnTime (initial ⟨10, 15⟩ 5 .empty) lateEvents :=
    onTime_of_rounds hrun (by decide) (by decide)
  have hgoes : GoesOn (initial ⟨10, 15⟩ 5 .empty) lateEvents (5 + 20) := goesOn_of_inits rfl
  have hpositive : 0 < 10 := by decide
  obtain ⟨-, -, -, hcount, -⟩ := cadence_of_run hpositive rfl hrun
  exact ⟨⟨10, 15⟩, state, hpositive, rfl, hrun, hontime, hgoes, rfl, rfl,
    hcount 20 hontime hgoes (by decide)⟩

end Example

end TimedTicker

end LineLog
