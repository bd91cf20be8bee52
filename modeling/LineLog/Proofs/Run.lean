import Mathlib.Data.List.Induction

/-!
# Runs of machines

Every machine of this library takes a step if the step is possible, and a run is
a fold over the steps.  A run over some events and then others is two runs, and
what holds of the beginning and is kept by every step holds of every run; the
property may speak of the events that led to the state.
-/

namespace LineLog

variable {State Event : Type}

/-- A computation that succeeds has succeeded at each of its steps. -/
theorem exists_of_bind_eq_ok {Error Value Result : Type} {first : Except Error Value}
    {others : Value → Except Error Result} {result : Result}
    (hok : first >>= others = .ok result) :
    ∃ value, first = .ok value ∧ others value = .ok result := by
  cases first with
  | error error => cases hok
  | ok value => exact ⟨value, rfl, hok⟩

theorem foldlM_append_eq_some_iff {next : State → Event → Option State}
    {first second : List Event} {start final : State} :
    (first ++ second).foldlM next start = some final ↔
      ∃ middle, first.foldlM next start = some middle ∧
        second.foldlM next middle = some final := by
  rw [List.foldlM_append]
  exact Option.bind_eq_some_iff

theorem foldlM_snoc_eq_some_iff {next : State → Event → Option State} {events : List Event}
    {event : Event} {start final : State} :
    (events ++ [event]).foldlM next start = some final ↔
      ∃ last, events.foldlM next start = some last ∧ next last event = some final := by
  simp only [foldlM_append_eq_some_iff, List.foldlM_cons, List.foldlM_nil]
  exact exists_congr fun last => and_congr_right fun _ =>
    ⟨fun hnext => by simpa using hnext, fun hnext => by simpa using hnext⟩

/-- Of two moments of a run the later one is reached from the earlier one. -/
theorem exists_foldlM_of_prefix {next : State → Event → Option State}
    {first second : List Event} {start middle final : State} (hfront : first <+: second)
    (hfirst : first.foldlM next start = some middle)
    (hsecond : second.foldlM next start = some final) :
    ∃ more : List Event, more.foldlM next middle = some final := by
  obtain ⟨more, rfl⟩ := hfront
  obtain ⟨reached, hreached, hmore⟩ := foldlM_append_eq_some_iff.mp hsecond
  obtain rfl := Option.some.inj (hfirst.symm.trans hreached)
  exact ⟨more, hmore⟩

/-- What never happens again after it has happened happens at most once. -/
theorem countP_le_one {happens : Event → Bool} {events : List Event}
    (hagain : ∀ before event after, events = before ++ event :: after → happens event →
      ∀ later ∈ after, happens later = false) : events.countP happens ≤ 1 := by
  induction events with
  | nil => exact Nat.zero_le 1
  | cons event events ih =>
      have hevents : ∀ before event after, events = before ++ event :: after → happens event →
          ∀ later ∈ after, happens later = false := by
        rintro before other after rfl
        exact hagain (event :: before) other after rfl
      by_cases hnow : happens event
      · have hlater := List.countP_eq_zero.mpr fun later hmem =>
          Bool.eq_false_iff.mp (hagain [] event events rfl hnow later hmem)
        exact Nat.le_of_eq ((List.countP_cons_of_pos hnow).trans (congrArg (· + 1) hlater))
      · rw [List.countP_cons_of_neg hnow]
        exact ih hevents

/-- What holds of the beginning and is kept by every step holds of every run. -/
theorem foldlM_induction {next : State → Event → Option State} {start : State}
    (Holds : List Event → State → Prop) (hstart : Holds [] start)
    (hstep : ∀ events state event after, events.foldlM next start = some state →
      Holds events state → next state event = some after → Holds (events ++ [event]) after)
    {events : List Event} {final : State} (hrun : events.foldlM next start = some final) :
    Holds events final := by
  -- from the last event on, because the property may speak of all events before it
  induction events using List.reverseRecOn generalizing final with
  | nil =>
      obtain rfl : start = final := by simpa using hrun
      exact hstart
  | append_singleton events event ih =>
      obtain ⟨state, hearlier, hnext⟩ := foldlM_snoc_eq_some_iff.mp hrun
      exact hstep events state event final hearlier (ih hearlier) hnext

/-- What only happens at the expense of something that never grows happens no more often
than there was of it. -/
theorem countP_add_le_of_foldlM {next : State → Event → Option State} {start final : State}
    (Holds : State → Prop) (left : State → Nat) (happens : Event → Bool) {events : List Event}
    (hstep : ∀ state event after, event ∈ events → Holds state → next state event = some after →
      Holds after ∧ left after + (if happens event then 1 else 0) ≤ left state)
    (hstart : Holds start) (hrun : events.foldlM next start = some final) :
    events.countP happens + left final ≤ left start := by
  induction events generalizing start with
  | nil =>
      obtain rfl : start = final := by simpa using hrun
      simp
  | cons event events ih =>
      obtain ⟨after, hnext, hrest⟩ := Option.bind_eq_some_iff.mp hrun
      obtain ⟨hafter, hspent⟩ := hstep start event after (by simp) hstart hnext
      have hlater := ih (fun state other following hmem =>
        hstep state other following (List.mem_cons_of_mem _ hmem)) hafter hrest
      rw [List.countP_cons]
      omega

/-- A part of a machine that steps like a machine of its own runs like it. -/
theorem foldlM_filterMap {View Part : Type} {next : State → Event → Option State}
    {nextPart : View → Part → Option View} {part? : Event → Option Part} {view : State → View}
    (hstep : ∀ state event after, next state event = some after →
      (part? event).elim (some (view state)) (nextPart (view state)) = some (view after))
    {events : List Event} {start final : State}
    (hrun : events.foldlM next start = some final) :
    (events.filterMap part?).foldlM nextPart (view start) = some (view final) := by
  induction events generalizing start with
  | nil =>
      obtain rfl : start = final := by simpa using hrun
      rfl
  | cons event events ih =>
      obtain ⟨after, hnext, hrest⟩ := Option.bind_eq_some_iff.mp hrun
      have hpart := hstep start event after hnext
      cases hevent : part? event with
      | none =>
          rw [hevent] at hpart
          rw [List.filterMap_cons_none hevent, Option.some.inj hpart]
          exact ih hrest
      | some part =>
          rw [hevent] at hpart
          rw [List.filterMap_cons_some hevent]
          exact Option.bind_eq_some_iff.mpr ⟨_, hpart, ih hrest⟩

/-- On the run over `events` the step `event` is taken after the steps `before`. -/
structure TakesStep (next : State → Event → Option State) (origin : State)
    (events before : List Event) (event : Event) (earlier later : State) : Prop where
  split : ∃ following, events = before ++ event :: following
  run_before : before.foldlM next origin = some earlier
  next_eq : next earlier event = some later

namespace TakesStep

variable {next : State → Event → Option State} {origin earlier later : State}
  {events before : List Event} {event : Event}

theorem last (hrun : events.foldlM next origin = some earlier)
    (hnext : next earlier event = some later) :
    TakesStep next origin (events ++ [event]) events event earlier later where
  split := ⟨[], rfl⟩
  run_before := hrun
  next_eq := hnext

theorem extend (hstep : TakesStep next origin events before event earlier later)
    (more : List Event) : TakesStep next origin (events ++ more) before event earlier later where
  split := by
    obtain ⟨following, rfl⟩ := hstep.split
    exact ⟨following ++ more, by rw [List.append_assoc, List.cons_append]⟩
  run_before := hstep.run_before
  next_eq := hstep.next_eq

theorem prefix_before (hstep : TakesStep next origin events before event earlier later) :
    before <+: events := by
  obtain ⟨following, rfl⟩ := hstep.split
  exact List.prefix_append before _

/-- A step of a run with one more event is that event or a step of the run before it. -/
theorem of_snoc {final : Event}
    (hstep : TakesStep next origin (events ++ [final]) before event earlier later) :
    TakesStep next origin events before event earlier later ∨
      before = events ∧ event = final := by
  obtain ⟨following, hsplit⟩ := hstep.split
  rcases List.eq_nil_or_concat following with rfl | ⟨between, last, rfl⟩
  · obtain ⟨rfl, hlast⟩ := List.append_inj' hsplit rfl
    exact .inr ⟨rfl, (List.singleton_inj.mp hlast).symm⟩
  · rw [List.concat_eq_append, ← List.cons_append, ← List.append_assoc] at hsplit
    obtain ⟨rfl, -⟩ := List.append_inj' hsplit rfl
    exact .inl ⟨⟨between, rfl⟩, hstep.run_before, hstep.next_eq⟩

/-- What happens in a step of a run with one more event is what happens in the last step, or in
one before it. -/
theorem of_run_snoc {state after : State} {final : Event}
    (hrun : events.foldlM next origin = some state) (hnext : next state final = some after)
    (hstep : TakesStep next origin (events ++ [final]) before event earlier later) :
    TakesStep next origin events before event earlier later ∨
      before = events ∧ event = final ∧ earlier = state ∧ later = after := by
  rcases hstep.of_snoc with hold | ⟨rfl, rfl⟩
  · exact .inl hold
  · obtain rfl := Option.some.inj (hrun.symm.trans hstep.run_before)
    exact .inr ⟨rfl, rfl, rfl, Option.some.inj (hstep.next_eq.symm.trans hnext)⟩

/-- Every event of a run is a step of it. -/
theorem exists_of_split {final : State} {following : List Event}
    (hrun : events.foldlM next origin = some final)
    (hsplit : events = before ++ event :: following) :
    ∃ earlier later, TakesStep next origin events before event earlier later := by
  subst hsplit
  obtain ⟨earlier, hbefore, hrest⟩ := foldlM_append_eq_some_iff.mp hrun
  obtain ⟨later, hnext, -⟩ := Option.bind_eq_some_iff.mp hrest
  exact ⟨earlier, later, ⟨following, rfl⟩, hbefore, hnext⟩

/-- Steps of a run with equally many steps before them are the same. -/
theorem eq_of_length {past : List Event} {other : Event} {reached following : State}
    (hfirst : TakesStep next origin events before event earlier later)
    (hsecond : TakesStep next origin events past other reached following)
    (hlength : before.length = past.length) :
    before = past ∧ event = other ∧ earlier = reached := by
  obtain ⟨rest, hrest⟩ := hfirst.split
  obtain ⟨others, hothers⟩ := hsecond.split
  obtain ⟨rfl, hevents⟩ := List.append_inj (hrest.symm.trans hothers) hlength
  exact ⟨rfl, (List.cons.inj hevents).1,
    Option.some.inj (hfirst.run_before.symm.trans hsecond.run_before)⟩

/-- Of two steps of a run with different beginnings the one begins where a run goes on
from the end of the other. -/
theorem exists_between {past : List Event} {other : Event} {reached following : State}
    (hfirst : TakesStep next origin events before event earlier later)
    (hsecond : TakesStep next origin events past other reached following)
    (hshorter : before.length < past.length) :
    ∃ more : List Event, more.foldlM next later = some reached := by
  obtain ⟨rest, hrest⟩ := hfirst.split
  have hfront : before ++ [event] <+: past := by
    have hwhole : before ++ [event] <+: events := ⟨rest, by rw [hrest]; simp⟩
    have hlength : (before ++ [event]).length ≤ past.length := by
      rw [List.length_append]
      exact hshorter
    exact List.prefix_of_prefix_length_le hwhole hsecond.prefix_before hlength
  have hlater : (before ++ [event]).foldlM next origin = some later :=
    foldlM_snoc_eq_some_iff.mpr ⟨earlier, hfirst.run_before, hfirst.next_eq⟩
  exact exists_foldlM_of_prefix hfront hlater hsecond.run_before

end TakesStep

/-! ## Steps that are met -/

/-- Some step of the run over `events` is as `Sees` says. -/
def Meets (next : State → Event → Option State) (origin : State) (events : List Event)
    (Sees : State → Event → Prop) : Prop :=
  ∃ before event earlier later,
    TakesStep next origin events before event earlier later ∧ Sees earlier event

section Meets

variable {next : State → Event → Option State} {origin state after : State}
  {events : List Event} {event : Event} {Sees : State → Event → Prop}

theorem meets_snoc_iff (hrun : events.foldlM next origin = some state)
    (hnext : next state event = some after) :
    Meets next origin (events ++ [event]) Sees ↔
      Meets next origin events Sees ∨ Sees state event := by
  constructor
  · rintro ⟨before, other, earlier, later, hstep, hsees⟩
    rcases hstep.of_run_snoc hrun hnext with hold | ⟨-, rfl, rfl, -⟩
    · exact .inl ⟨before, other, earlier, later, hold, hsees⟩
    · exact .inr hsees
  · rintro (⟨before, other, earlier, later, hstep, hsees⟩ | hsees)
    · exact ⟨before, other, earlier, later, hstep.extend [event], hsees⟩
    · exact ⟨events, event, state, after, .last hrun hnext, hsees⟩

/-- What no event is like is not met. -/
theorem not_meets_of_forall (hevents : ∀ event ∈ events, ∀ state, ¬ Sees state event) :
    ¬ Meets next origin events Sees := by
  rintro ⟨before, event, earlier, later, hstep, hsees⟩
  obtain ⟨following, rfl⟩ := hstep.split
  exact hevents event (by simp) earlier hsees

theorem not_meets_nil : ¬ Meets next origin [] Sees :=
  not_meets_of_forall (by simp)

theorem not_meets_append {more : List Event} (hrun : events.foldlM next origin = some state)
    (hevents : ¬ Meets next origin events Sees) (hmore : ¬ Meets next state more Sees) :
    ¬ Meets next origin (events ++ more) Sees := by
  rintro ⟨before, event, earlier, later, hstep, hsees⟩
  obtain ⟨following, hsplit⟩ := hstep.split
  rcases List.append_eq_append_iff.mp hsplit with ⟨between, rfl, hrest⟩ | ⟨between, rfl, hrest⟩
  · obtain ⟨middle, hmiddle, hbetween⟩ := foldlM_append_eq_some_iff.mp hstep.run_before
    obtain rfl := Option.some.inj (hrun.symm.trans hmiddle)
    exact hmore ⟨between, event, earlier, later, ⟨⟨following, hrest⟩, hbetween, hstep.next_eq⟩,
      hsees⟩
  · cases between with
    | nil =>
        obtain rfl := Option.some.inj (hrun.symm.trans (by simpa using hstep.run_before))
        exact hmore ⟨[], event, state, later, ⟨⟨following, hrest.symm⟩, rfl, hstep.next_eq⟩, hsees⟩
    | cons first between =>
        obtain ⟨rfl, -⟩ := List.cons.inj hrest
        exact hevents ⟨before, event, earlier, later,
          ⟨⟨between, rfl⟩, hstep.run_before, hstep.next_eq⟩, hsees⟩

end Meets

end LineLog
