import LineLog.Acceptor.Queue
import LineLog.Proofs.Acceptor.Phase
import LineLog.Proofs.Run

/-!
# No connection is left waiting

A poll only tells that something arrived.  If the loop waited with connections in the queue
that no later report stands for, they would stay there until somebody else connects.  The
loop therefore does not stop accepting before the queue is empty, whatever the poll reported
and whatever becomes of the connections.  Only an attempt that fails leaves connections
behind; then the next poll that returns, at the latest because its time has passed, leads to
another attempt.
-/

namespace LineLog

variable {Client : Type}

def AcceptStep.returns : AcceptStep Client → Bool
  | .poll .ready => true
  | _ => false

theorem AcceptStep.eq_of_returns {step : AcceptStep Client} (hreturns : step.returns) :
    step = .poll .ready := by
  unfold returns at hreturns
  split at hreturns
  · rfl
  · cases hreturns

namespace QueueEvent

def loopStep? : QueueEvent Client → Option (AcceptStep Client)
  | .report => some (.poll .ready)
  | .step taken => some taken
  | .arrive _ | .trigger => none

def attempt? : QueueEvent Client → Option (AcceptResult Client)
  | .step (.accept result) => some result
  | _ => none

/-- A poll returns without an error, whether or not it reports the listening socket. -/
def returns (event : QueueEvent Client) : Bool :=
  event.loopStep?.any AcceptStep.returns

theorem loopStep?_of_returns {event : QueueEvent Client} (hreturns : event.returns) :
    event.loopStep? = some (.poll .ready) := by
  obtain ⟨step, hstep, hpoll⟩ := (Option.any_eq_true _ _).mp hreturns
  rw [hstep, AcceptStep.eq_of_returns hpoll]

end QueueEvent

namespace AcceptPhase

/-- The loop is done with the queue until a poll returns. -/
def isDone : AcceptPhase Client → Bool
  | .beforePoll | .polling | .sweeping => true
  | _ => false

variable {phase following : AcceptPhase Client} {step : AcceptStep Client}

/-- The loop gets done with the queue because it is to stop, because the queue is empty, or
because an attempt has failed. -/
theorem isDone_of_next (hnext : phase.next step = some following) (hdone : following.isDone) :
    (phase.isDone ∧ ∀ result, step ≠ .accept result) ∨ step = .look true ∨
      step = .accept .wouldBlock ∨ ∃ error, step = .accept (.failed error) := by
  unfold next at hnext
  split at hnext <;> cases hnext <;> first | cases hdone; done | simp [isDone]

/-- How many polls may return before the next attempt to accept. -/
def pollsLeft (stopping : Bool) : AcceptPhase Client → Nat
  | .polling => 1
  | .beforePoll | .sweeping => if stopping then 0 else 1
  | _ => 0

theorem pollsLeft_le_one (phase : AcceptPhase Client) (stopping : Bool) :
    phase.pollsLeft stopping ≤ 1 := by
  cases phase <;> cases stopping <;> simp [pollsLeft]

theorem pollsLeft_true_le (phase : AcceptPhase Client) (stopping : Bool) :
    phase.pollsLeft true ≤ phase.pollsLeft stopping := by
  cases phase <;> simp [pollsLeft]

/-- A poll that returns uses up what is left of them, and nothing but an attempt to accept
gives leave to another one. -/
theorem pollsLeft_of_next {stopping : Bool} (hnext : phase.next step = some following)
    (hlook : ∀ seen, step = .look seen → stopping = seen)
    (hquiet : ∀ result, step ≠ .accept result) :
    following.pollsLeft stopping + (if step.returns then 1 else 0) ≤
      phase.pollsLeft stopping := by
  unfold next at hnext
  split at hnext <;> cases hnext
  all_goals cases stopping <;> simp_all [pollsLeft, AcceptStep.returns]

/-- After a poll that has returned the loop attempts to accept, unless it sees the flag. -/
theorem attempts_of_beforeAccept {steps : List (AcceptStep Client)}
    (hrun : steps.foldlM next beforeAccept = some following) :
    steps <+: [.look false] ∨ (∃ result rest, steps = .look false :: .accept result :: rest) ∨
      ∃ rest, steps = .look true :: rest := by
  cases steps with
  | nil => exact .inl (List.nil_prefix)
  | cons first steps =>
      obtain ⟨middle, hfirst, hrest⟩ := Option.bind_eq_some_iff.mp hrun
      cases first with
      | poll | accept | start | sweep => cases hfirst
      | look seen =>
          cases seen with
          | true => exact .inr (.inr ⟨steps, rfl⟩)
          | false =>
              obtain rfl := Option.some.inj hfirst
              cases steps with
              | nil => exact .inl (List.prefix_refl _)
              | cons second steps =>
                  obtain ⟨later, hsecond, -⟩ := Option.bind_eq_some_iff.mp hrest
                  cases second with
                  | accept result => exact .inr (.inl ⟨result, steps, rfl⟩)
                  | look | poll | start | sweep => cases hsecond

end AcceptPhase

namespace AcceptQueue

open QueueEvent

def loopSteps (events : List (QueueEvent Client)) : List (AcceptStep Client) :=
  events.filterMap loopStep?

def attempts (events : List (QueueEvent Client)) : List (AcceptResult Client) :=
  events.filterMap attempt?

variable {queue : AcceptQueue Client}

theorem stopping_take (step : AcceptStep Client) : (queue.take step).stopping = queue.stopping := by
  unfold take
  split <;> rfl

/-- Only an attempt to accept takes anything. -/
theorem take_of_quiet {step : AcceptStep Client} (hquiet : ∀ result, step ≠ .accept result) :
    queue.take step = queue := by
  cases step with
  | accept result => exact absurd rfl (hquiet result)
  | _ => rfl

/-- Unless the loop is to stop, it is done with the queue only when nothing is waiting, when
the next poll reports what is, or when the latest attempt has failed. -/
def Attended (queue : AcceptQueue Client) : Prop :=
  queue.phase.isDone → queue.stopping = false →
    queue.waiting = [] ∨ queue.edge ∨ queue.failed

theorem attended_initial (waiting : List Client) : (initial waiting).Attended := by
  intro _ _
  cases waiting with
  | nil => exact .inl rfl
  | cons first waiting => exact .inr (.inl rfl)

variable [DecidableEq Client] {after : AcceptQueue Client} {event : QueueEvent Client}
  {events : List (QueueEvent Client)}

theorem permits_look {seen : Bool} (hpermits : queue.permits (.look seen)) :
    queue.stopping = seen :=
  (of_decide_eq_true hpermits).symm

inductive Stepped (queue : AcceptQueue Client) : QueueEvent Client → AcceptQueue Client → Prop where
  | arrived (client : Client) :
      Stepped queue (.arrive client)
        { queue with waiting := queue.waiting ++ [client], edge := true }
  | triggered : Stepped queue .trigger { queue with stopping := true }
  | reported (hedge : queue.edge) (hphase : queue.phase = .polling) :
      Stepped queue .report { queue with phase := .beforeAccept, edge := false }
  | turned (step : AcceptStep Client) (phase : AcceptPhase Client) (hpermits : queue.permits step)
      (hturn : queue.phase.next step = some phase) :
      Stepped queue (.step step) { queue.take step with phase }

theorem stepped_of_next (hnext : queue.next event = some after) : Stepped queue event after := by
  cases event with
  | arrive client =>
      obtain rfl := Option.some.inj hnext
      exact .arrived client
  | trigger =>
      obtain rfl := Option.some.inj hnext
      exact .triggered
  | report =>
      obtain ⟨hedge, hreport⟩ := Option.ite_none_right_eq_some.mp hnext
      obtain ⟨phase, hphase, rfl⟩ := Option.map_eq_some_iff.mp hreport
      obtain ⟨hpolling, rfl⟩ := AcceptPhase.eq_of_next_returned hphase
      exact .reported hedge hpolling
  | step step =>
      obtain ⟨hpermits, hstep⟩ := Option.ite_none_right_eq_some.mp hnext
      obtain ⟨phase, hphase, rfl⟩ := Option.map_eq_some_iff.mp hstep
      exact .turned step phase hpermits hphase

/-- The loop of the queue steps like the loop alone. -/
theorem phase_of_next (hnext : queue.next event = some after) :
    event.loopStep?.elim (some queue.phase) queue.phase.next = some after.phase := by
  cases stepped_of_next hnext with
  | arrived | triggered => rfl
  | reported hedge hphase =>
      rw [hphase]
      rfl
  | turned step phase hpermits hturn => exact hturn

theorem loopSteps_of_run (hrun : queue.run events = some after) :
    (loopSteps events).foldlM AcceptPhase.next queue.phase = some after.phase :=
  foldlM_filterMap (fun _ _ _ hnext => phase_of_next hnext) hrun

theorem Attended.next (hattended : queue.Attended) (hnext : queue.next event = some after) :
    after.Attended := by
  cases stepped_of_next hnext with
  | arrived client => exact fun _ _ => .inr (.inl rfl)
  | triggered =>
      intro _ hgoing
      cases hgoing
  | reported hedge hphase =>
      intro hdone
      cases hdone
  | turned step phase hpermits hturn =>
      intro hdone hgoing
      rcases AcceptPhase.isDone_of_next hturn hdone with
        ⟨hbefore, hquiet⟩ | rfl | rfl | ⟨error, rfl⟩
      · have hsame : queue.take step = queue := take_of_quiet hquiet
        simp only [hsame] at hgoing ⊢
        exact hattended hbefore hgoing
      · -- the flag is seen only when it is set
        cases hgoing.symm.trans (permits_look hpermits)
      · exact .inl (List.isEmpty_iff.mp hpermits)
      · exact .inr (.inr rfl)

/-- The latest attempt of the run has failed if it is said so. -/
theorem failed_iff_of_run {waiting : List Client}
    (hrun : (initial waiting).run events = some queue) :
    queue.failed ↔ ∃ error, (attempts events).getLast? = some (.failed error) := by
  refine foldlM_induction (fun events queue => queue.failed ↔
    ∃ error, (attempts events).getLast? = some (.failed error)) ?_ ?_ hrun
  · simp [initial, attempts]
  · intro events state event after _ hfailed hnext
    rw [attempts, List.filterMap_append]
    cases stepped_of_next hnext with
    | arrived | triggered | reported => simpa [attempts, attempt?] using hfailed
    | turned step phase hpermits hturn =>
        cases step with
        | look | poll | start | sweep => simpa [attempts, attempt?, take] using hfailed
        | accept result => cases result <;> simp [attempt?, take]

/-- The flag is set once shutdown has been requested. -/
theorem stopping_iff_of_run {waiting : List Client}
    (hrun : (initial waiting).run events = some queue) :
    queue.stopping ↔ .trigger ∈ events := by
  refine foldlM_induction (fun events queue => queue.stopping ↔ .trigger ∈ events) ?_ ?_ hrun
  · simp [initial]
  · intro events state event after _ hstopping hnext
    cases stepped_of_next hnext with
    | triggered => simp
    | arrived | reported => simpa using hstopping
    | turned step phase hpermits hturn => simpa [stopping_take] using hstopping

/-- Without an attempt to accept at most one poll returns. -/
theorem countP_returns_le_one (hrun : queue.run events = some after)
    (hquiet : attempts events = []) : events.countP returns ≤ 1 := by
  have hstep (state : AcceptQueue Client) (event : QueueEvent Client)
      (following : AcceptQueue Client) (hmem : event ∈ events) (_ : True)
      (hnext : state.next event = some following) :
      True ∧ following.phase.pollsLeft following.stopping + (if event.returns then 1 else 0) ≤
        state.phase.pollsLeft state.stopping := by
    refine ⟨trivial, ?_⟩
    have hattempt := List.filterMap_eq_nil_iff.mp hquiet event hmem
    cases stepped_of_next hnext with
    | arrived client => exact Nat.le_refl _
    | triggered => exact state.phase.pollsLeft_true_le state.stopping
    | reported hedge hphase =>
        rw [hphase]
        exact Nat.le_refl 1
    | turned step phase hpermits hturn =>
        have hquiet : ∀ result, step ≠ .accept result := by
          rintro result rfl
          cases hattempt
        rw [take_of_quiet hquiet]
        exact AcceptPhase.pollsLeft_of_next hturn
          (fun seen heq => permits_look (heq ▸ hpermits)) hquiet
  have hcount := countP_add_le_of_foldlM (fun _ => True)
    (fun state : AcceptQueue Client => state.phase.pollsLeft state.stopping) returns hstep trivial
    hrun
  have hleft := queue.phase.pollsLeft_le_one queue.stopping
  omega

/-- Unless it has stopped, the loop can always go on. -/
theorem exists_next (queue : AcceptQueue Client)
    (hgoing : ∀ result, queue.phase ≠ .stopped result) :
    ∃ step after, queue.next (.step step) = some after := by
  have haccept : ∃ result, queue.permits (.accept result) := by
    cases hwaiting : queue.waiting with
    | nil => exact ⟨.wouldBlock, List.isEmpty_iff.mpr hwaiting⟩
    | cons client waiting =>
        exact ⟨.connection client, decide_eq_true (by rw [hwaiting]; rfl)⟩
  obtain ⟨step, hpermits, hturns⟩ := AcceptPhase.exists_next queue.permits
    ⟨queue.stopping, decide_eq_true rfl⟩ haccept rfl rfl rfl hgoing
  obtain ⟨phase, hphase⟩ := Option.isSome_iff_exists.mp hturns
  exact ⟨step, { queue.take step with phase }, by simp only [next, hpermits, hphase]; rfl⟩

/-- Whenever the loop is about to wait and shutdown has not been requested, nothing is
waiting, or the next poll reports what is, or the latest attempt to accept has failed.  Every
poll that returns without an error, even if it reports nothing, is followed by an attempt to
accept, unless the loop sees the flag, which it does only after shutdown has been requested;
and it can always go on until it stops.  So from a failed attempt to the next one, as from
any attempt to the next, at most one poll returns.  Clients may arrive at any moment, polls
may end for any reason, attempts may be interrupted or fail, and workers may fail to start. -/
theorem attended_of_run {waiting : List Client} (hrun : (initial waiting).run events = some queue) :
    (queue.phase = .beforePoll ∨ queue.phase = .polling → queue.stopping = false →
        queue.waiting = [] ∨ queue.edge ∨
          ∃ error, (attempts events).getLast? = some (.failed error)) ∧
      (∀ before poll after, events = before ++ poll :: after → poll.returns →
        loopSteps after <+: [.look false] ∨
          (∃ result rest, loopSteps after = .look false :: .accept result :: rest) ∨
          ∃ rest, loopSteps after = .look true :: rest) ∧
      (∀ before (seen : Bool) after, events = before ++ .step (.look seen) :: after →
        (seen ↔ .trigger ∈ before)) ∧
      (∀ before between after, events = before ++ between ++ after → attempts between = [] →
        between.countP returns ≤ 1) ∧
      ((∀ result, queue.phase ≠ .stopped result) →
        ∃ step after, queue.next (.step step) = some after) := by
  refine ⟨?_, ?_, ?_, ?_, queue.exists_next⟩
  · intro hwaits hgoing
    have hattended : queue.Attended :=
      foldlM_induction (fun _ queue => queue.Attended) (attended_initial waiting)
        (fun _ _ _ _ _ hattended hnext => hattended.next hnext) hrun
    have hdone : queue.phase.isDone := by rcases hwaits with hphase | hphase <;> rw [hphase] <;> rfl
    rw [← failed_iff_of_run hrun]
    exact hattended hdone hgoing
  · rintro before poll after rfl hreturns
    obtain ⟨earlier, -, hpoll⟩ := foldlM_append_eq_some_iff.mp hrun
    obtain ⟨later, hnext, hafter⟩ := Option.bind_eq_some_iff.mp hpoll
    have hturn := phase_of_next hnext
    rw [loopStep?_of_returns hreturns] at hturn
    have hlater := (AcceptPhase.eq_of_next_returned hturn).2
    exact AcceptPhase.attempts_of_beforeAccept (hlater ▸ loopSteps_of_run hafter)
  · rintro before seen after rfl
    obtain ⟨earlier, hbefore, hlook⟩ := foldlM_append_eq_some_iff.mp hrun
    obtain ⟨later, hnext, -⟩ := Option.bind_eq_some_iff.mp hlook
    cases stepped_of_next hnext with
    | turned step phase hpermits hturn =>
        rw [← permits_look hpermits]
        exact stopping_iff_of_run hbefore
  · rintro before between after rfl hquiet
    obtain ⟨middle, hmiddle, -⟩ := foldlM_append_eq_some_iff.mp hrun
    obtain ⟨start, -, hbetween⟩ := foldlM_append_eq_some_iff.mp hmiddle
    exact countP_returns_le_one hbetween hquiet

section Example

/-- The worker of a client that came early cannot be started.  Another one connects while the
loop is still accepting and is left in the queue, because the process has run out of
descriptors; the poll that reports it does not help, since the next attempt is interrupted
and then fails too. -/
private def exhaustedEvents : List (QueueEvent Nat) :=
  [.step (.look false), .report, .step (.look false), .step (.accept (.connection 1)),
    .step (.start (.notStarted Os.Error.tooManyOpenFiles)), .arrive 2, .step (.look false),
    .step (.accept (.failed Os.Error.tooManyOpenFiles)), .step .sweep, .step (.look false),
    .report, .step (.look false), .step (.accept .interrupted), .step (.look false),
    .step (.accept (.failed Os.Error.tooManyOpenFiles)), .step .sweep, .step (.look false),
    .step (.poll .interrupted), .step (.look false)]

/-- Clients wait in the queue only because the latest attempt to accept has failed. -/
theorem attended_of_exhaustedEvents :
    ∃ queue, (initial [1]).run exhaustedEvents = some queue ∧ queue.phase = .polling ∧
      queue.stopping = false ∧ queue.waiting = [2] ∧ queue.edge = false ∧
      ∃ error, (attempts exhaustedEvents).getLast? = some (.failed error) := by
  refine ⟨⟨.polling, [2], false, false, true⟩, rfl, rfl, rfl, rfl, rfl, ?_⟩
  have hrun : (initial [1]).run exhaustedEvents =
      some ⟨.polling, [2], false, false, true⟩ := rfl
  rcases (attended_of_run hrun).1 (.inr rfl) rfl with hempty | hedge | hfailed
  · cases hempty
  · cases hedge
  · exact hfailed

end Example

end AcceptQueue

end LineLog
