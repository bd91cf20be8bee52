import LineLog.Drain
import LineLog.Proofs.Settings.Resolve
import LineLog.Proofs.Ticker.Cadence
import LineLog.Ticker.Records

/-!
# Deadlines within the clock

The ticker adds its interval to the clock or to a deadline that is over.  Both sums lie within
the clock as long as the clock is more than an interval away from its end, and then the ticker
goes on.  Nothing keeps an interval from being longer than the clock: such an interval is
accepted, and the ticker does not survive its first deadline.
-/

namespace LineLog

namespace Clock

variable {moment reading : Nanoseconds}

theorem within?_of_lt (hmoment : moment < bound) : within? moment = some moment :=
  if_pos hmoment

theorem within?_eq_none_iff : within? moment = none ↔ bound ≤ moment := by
  rw [within?, ite_eq_right_iff, ← Nat.not_lt]
  exact forall_congr' fun _ => by simp

theorem lt_of_within? (hwithin : within? moment = some reading) : reading < bound := by
  obtain ⟨hmoment, hreading⟩ := Option.ite_none_right_eq_some.mp hwithin
  exact Option.some.inj hreading ▸ hmoment

end Clock

namespace Ticker

variable {interval start now : Nanoseconds} {ticker following : Ticker}

/-- The ticker cannot start exactly if its first deadline is out of range of the clock. -/
theorem start?_eq_none_iff : start? interval start = none ↔ Clock.bound ≤ start + interval := by
  rw [start?, Option.map_eq_none_iff, Clock.within?_eq_none_iff]

theorem deadline_lt_of_start? (hstart : start? interval start = some ticker) :
    ticker.deadline < Clock.bound := by
  obtain ⟨deadline, hwithin, rfl⟩ := Option.map_eq_some_iff.mp hstart
  exact Clock.lt_of_within? hwithin

theorem deadline_lt_of_advance? (hadvance : ticker.advance? now = some following) :
    following.deadline < Clock.bound := by
  obtain ⟨next, hnext, hrest⟩ := Option.bind_eq_some_iff.mp hadvance
  split at hrest
  · obtain ⟨restart, hrestart, hfollowing⟩ := Option.bind_eq_some_iff.mp hrest
    obtain rfl := Option.some.inj hfollowing
    exact Clock.lt_of_within? hrestart
  · obtain rfl := Option.some.inj hrest
    exact Clock.lt_of_within? hnext

/-- The next deadline cannot be set exactly if it is out of range, or the one counted from now is.
-/
theorem advance?_eq_none_iff : ticker.advance? now = none ↔
    Clock.bound ≤ ticker.deadline + ticker.interval ∨
      ticker.deadline + ticker.interval < now ∧ Clock.bound ≤ now + ticker.interval := by
  unfold advance?
  rcases Nat.lt_or_ge (ticker.deadline + ticker.interval) Clock.bound with hnext | hnext
  · rw [Clock.within?_of_lt hnext, Option.bind_eq_bind, Option.bind_some]
    split
    · next hlate =>
      have hrestart : Clock.within? (now + ticker.interval) = none ↔ _ := Clock.within?_eq_none_iff
      cases hwithin : Clock.within? (now + ticker.interval) with
      | none => simp [hlate, hrestart.mp hwithin]
      | some restart => simp [Nat.not_le.mpr hnext, hlate, ← hrestart, hwithin]
    · next hearly => simp [hearly, Nat.not_le.mpr hnext]
  · simp [Clock.within?_eq_none_iff.mpr hnext, hnext]

/-- A deadline that is over has a next one, unless the clock is about to end. -/
theorem bound_le_of_advance?_eq_none (hdue : ticker.deadline ≤ now)
    (hnone : ticker.advance? now = none) : Clock.bound ≤ now + ticker.interval := by
  rcases advance?_eq_none_iff.mp hnone with hnext | ⟨-, hrestart⟩
  · exact Nat.le_trans hnext (Nat.add_le_add_right hdue _)
  · exact hrestart

end Ticker

namespace TimedTicker

variable {interval start : Nanoseconds} {state after : TimedTicker} {event : TimedEvent}
  {events : List TimedEvent} {ticker : Ticker} {log : Log}

structure InRange (state : TimedTicker) : Prop where
  deadlines : ∀ deadline ∈ state.deadlines, deadline < Clock.bound
  due : state.phase = .appending ∨ state.phase = .scheduling → state.ticker.deadline ≤ state.now
  panicked : state.phase = .ended .panicked → Clock.bound ≤ state.now + state.ticker.interval

/-- No deadline that was set is out of range. -/
theorem InRange.next (hrange : state.InRange) (hpunctual : state.Punctual interval)
    (hnext : state.next event = some after) : after.InRange := by
  obtain ⟨hdeadlines, hdue, hpanicked⟩ := hrange
  cases stepped_of_next hnext with
  | passed time =>
      refine ⟨hdeadlines, fun hphase => Nat.le_add_right_of_le (hdue hphase), fun hphase => ?_⟩
      calc Clock.bound ≤ state.now + state.ticker.interval := hpanicked hphase
        _ ≤ state.now + time + state.ticker.interval :=
            Nat.add_le_add_right (Nat.le_add_right _ _) _
  | triggered | changed | waited => exact ⟨hdeadlines, hdue, hpanicked⟩
  | stopped => exact ⟨hdeadlines, by simp, nofun⟩
  | due moment hphase hwakes hgoing hover =>
      refine ⟨hdeadlines, fun _ => ?_, nofun⟩
      exact Nat.le_trans (hpunctual.wakes moment hwakes).2 hover
  | appended obstacles record hphase => exact ⟨hdeadlines, fun _ => hdue (.inl hphase), nofun⟩
  | advanced ticker hphase hadvance =>
      refine ⟨fun deadline hmem => ?_, by simp, nofun⟩
      simp only [TimedTicker.deadlines, List.map_append, List.mem_append, List.map_singleton,
        List.mem_singleton] at hmem
      rcases hmem with (hearlier | rfl) | rfl
      · exact hdeadlines deadline (List.mem_append_left _ hearlier)
      · exact hdeadlines _ (List.mem_append_right _ (List.mem_singleton_self _))
      · exact Ticker.deadline_lt_of_advance? hadvance
  | overflowed hphase hadvance =>
      -- the deadline that overflows is over already, so the clock itself is near its end
      refine ⟨hdeadlines, by simp, fun _ => ?_⟩
      exact Ticker.bound_le_of_advance?_eq_none (hdue (.inr hphase)) hadvance

theorem inRange_of_run (hstart : Ticker.start? interval start = some ticker)
    (hrun : (initial ticker start log).run events = some state) : state.InRange := by
  have hfirst : (initial ticker start log).InRange := by
    refine ⟨fun deadline hmem => ?_, by simp [initial], nofun⟩
    obtain rfl : deadline = ticker.deadline := by simpa [initial, deadlines] using hmem
    exact Ticker.deadline_lt_of_start? hstart
  obtain rfl := Ticker.eq_of_start? hstart
  exact foldlM_induction (fun _ => InRange) hfirst
    (fun _ _ _ _ hearlier hrange hnext => hrange.next (punctual_of_run hearlier) hnext) hrun

structure Bounded (interval : Duration) (start : Nanoseconds) : Prop where
  /-- The interval is a whole number of seconds, at least one and as many as there may be. -/
  whole : ∃ seconds, 0 < seconds ∧ interval = .ofSeconds seconds
  /-- There is a first deadline exactly if the clock does not end before it. -/
  starts : Ticker.start? interval.toNanos start = none ↔ Clock.bound ≤ start + interval.toNanos
  /-- No deadline is ever outside the clock. -/
  deadlines : ∀ ticker log events state, Ticker.start? interval.toNanos start = some ticker →
    (initial ticker start log).run events = some state →
      ∀ deadline ∈ state.deadlines, deadline < Clock.bound
  /-- The ticker does not panic before it is an interval away from the end of the clock, and the
  drain has nothing to report of it. -/
  goesOn : ∀ ticker log events state, Ticker.start? interval.toNanos start = some ticker →
    (initial ticker start log).run events = some state →
      state.now + interval.toNanos < Clock.bound →
        state.phase ≠ .ended .panicked ∧ ∀ ending (service : Service) later host,
          state.phase = .ended ending → service.ticker = some ending →
            (service.drain later host).2.tickerPanicked = false

/-- Any interval that settings can have keeps a ticker within the clock until the sum leaves its
range. -/
theorem bounded_of_resolve {arguments : CommandLine.Arguments} {host : Host} {settings : Settings}
    {interval : Duration} (hresolve : Settings.resolve arguments host = .ok settings)
    (hinterval : settings.timestampInterval = some interval) (start : Nanoseconds) :
    Bounded interval start where
  whole := by
    obtain ⟨entries, -, -, hlayered⟩ := Settings.exists_layered hresolve
    refine ⟨_, ?_, hlayered.timestamps interval hinterval⟩
    refine Nat.pos_of_ne_zero fun hzero => ?_
    rw [hlayered.noTimestamps.mpr hzero] at hinterval
    cases hinterval
  starts := Ticker.start?_eq_none_iff
  deadlines _ _ _ _ hstart hrun := (inRange_of_run hstart hrun).deadlines
  goesOn ticker log events state hstart hrun hnow := by
    have hphase : state.phase ≠ .ended .panicked := by
      intro hphase
      have hbound := (inRange_of_run hstart hrun).panicked hphase
      have hsame : state.ticker.interval = interval.toNanos := by
        obtain rfl := Ticker.eq_of_start? hstart
        exact (punctual_of_run hrun).interval_eq
      exact absurd hnow (Nat.not_lt.mpr (hsame ▸ hbound))
    refine ⟨hphase, fun ending service later host hending hticker => ?_⟩
    have hreturned : service.ticker ≠ some .panicked := by
      rintro hpanicked
      obtain rfl := Option.some.inj (hticker.symm.trans hpanicked)
      exact hphase hending
    exact decide_eq_false hreturned

section Example

private def everyTenSeconds : CommandLine.Arguments :=
  { CommandLine.Arguments.none with timestampInterval := some 10 }

private def anyHost : Host where
  tree := .empty
  current := []
  sizeLimit := none
  descriptors := .none
  network := .isolated

/-- Two deadlines, the second of them after a stall of an hour. -/
private def stalledEvents : List TimedEvent :=
  [.wait, .pass (10 * Clock.second), .look, .append .none [120, 10], .pass (3600 * Clock.second),
    .schedule, .wait, .pass (10 * Clock.second), .look]

/-- A stall of an hour does not bring the ticker near the end of the clock. -/
theorem bounded_of_stalledEvents :
    ∃ settings ticker state, Settings.resolve everyTenSeconds anyHost = .ok settings ∧
      settings.timestampInterval = some ⟨10, 0⟩ ∧
      Ticker.start? (Duration.toNanos ⟨10, 0⟩) 0 = some ticker ∧
      (initial ticker 0 .empty).run stalledEvents = some state ∧
      state.deadlines = [10 * Clock.second, 3620 * Clock.second] ∧
      state.now + Duration.toNanos ⟨10, 0⟩ < Clock.bound ∧ state.phase ≠ .ended .panicked := by
  let state : TimedTicker :=
    { ticker := ⟨10000000000, 3620000000000⟩
      phase := .appending
      now := 3620000000000
      wakes := none
      stopping := false
      log := (Log.empty.append .none [120, 10]).1
      rounds := [⟨10000000000, 3610000000000⟩]
      attempts := [10000000000] }
  have hlisten : SocketAddress.parse? (Settings.listenText everyTenSeconds []) =
      some (.v4 .unspecified 9000) := by decide +kernel
  have hresolve : Settings.resolve everyTenSeconds anyHost =
      .ok (Settings.layered everyTenSeconds [] (.v4 .unspecified 9000)) :=
    (Settings.resolve_of_states (.nothing rfl) Settings.wellTyped_nil).trans
      (Settings.merge_of_layered hlisten (by decide))
  have hstart : Ticker.start? (Duration.toNanos ⟨10, 0⟩) 0 = some ⟨10000000000, 10000000000⟩ := rfl
  have hrun : (initial ⟨10000000000, 10000000000⟩ 0 .empty).run stalledEvents = some state := rfl
  have hnow : state.now + Duration.toNanos ⟨10, 0⟩ < Clock.bound := by decide
  have hbounded := bounded_of_resolve hresolve rfl 0
  exact ⟨_, _, state, hresolve, rfl, hstart, hrun, rfl, hnow,
    (hbounded.goesOn _ _ _ state hstart hrun hnow).1⟩

private def longestInterval : CommandLine.Arguments :=
  { CommandLine.Arguments.none with timestampInterval := some 18446744073709551615 }

/-- The longest interval that the command line takes is longer than the clock, so the ticker never
has a deadline, and the drain reports that it panicked. -/
theorem panicked_of_longestInterval :
    CommandLine.parse [Bytes.ofString "-t", Bytes.ofString "18446744073709551615"] =
        .ok longestInterval ∧
      ∃ settings interval, (∀ host, Settings.resolve longestInterval host = .ok settings) ∧
        settings.timestampInterval = some interval ∧
        (∀ start, Ticker.start? interval.toNanos start = none) ∧
        ∀ stop start limit store host (service : Service) later,
          service.ticker = some (Store.tickUntil stop interval.toNanos start limit store host).2 →
            (service.drain later host).2.tickerPanicked = true := by
  have hlisten : SocketAddress.parse? (Settings.listenText longestInterval []) =
      some (.v4 .unspecified 9000) := by decide +kernel
  have hresolve (host : Host) : Settings.resolve longestInterval host =
      .ok (Settings.layered longestInterval [] (.v4 .unspecified 9000)) :=
    (Settings.resolve_of_states (.nothing rfl) Settings.wellTyped_nil).trans
      (Settings.merge_of_layered hlisten (by decide))
  have hlong : Clock.bound ≤ (Duration.ofSeconds 18446744073709551615).toNanos := by decide
  have hstart (start : Nanoseconds) :
      Ticker.start? (Duration.ofSeconds 18446744073709551615).toNanos start = none :=
    Ticker.start?_eq_none_iff.mpr (Nat.le_add_left_of_le hlong)
  refine ⟨by rfl, _, .ofSeconds 18446744073709551615, hresolve, by rfl, hstart, ?_⟩
  intro stop start limit store host service later hticker
  rw [Store.tickUntil, hstart] at hticker
  exact decide_eq_true hticker

end Example

end TimedTicker

end LineLog
