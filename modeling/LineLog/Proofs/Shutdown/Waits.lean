import LineLog.Proofs.Shutdown.Race

/-!
# Requests and waits along a run

What the callers of the shutdown flag can rely on, however their calls are interleaved
and whenever a sleeper wakes for no reason.  The flag stays set; one request is told
that it was the first, and it wakes everybody; a wait that is told that there is no
request has used up its time, unless it got back a poisoned lock from its sleep; and
one that comes too late to sleep does not sleep.
-/

namespace LineLog

namespace FlagPhase

variable {phase : FlagPhase}

def wait? : FlagPhase → Option FlagWait
  | .entering wait | .checking wait | .timing wait | .dozing wait | .asleep wait _
  | .finishing wait | .leaving wait => some wait
  | _ => none

def isRequest : FlagPhase → Bool
  | .requesting | .flipping | .flipped _ | .notifying | .waking | .requested _ => true
  | _ => false

theorem isRequest_of_isWinning (hwins : phase.isWinning = true) : phase.isRequest = true := by
  cases phase with
  | flipped | notifying | waking | requested => rfl
  | _ => cases hwins

theorem isRequest_of_isAsking (hasking : phase.isAsking = true) : phase.isRequest = true := by
  cases phase with
  | requesting | flipping => rfl
  | _ => cases hasking

/-- A wait in this phase is over, or will be once it has got back a poisoned lock. -/
def isReturning : FlagPhase → Bool
  | .asleep _ _ | .finishing _ | .leaving _ => true
  | .entering wait => wait.slept
  | _ => false

/-- The number of steps after which a request has returned, or a wait that finds the
flag set or the lock poisoned. -/
def remaining : FlagPhase → Nat
  | .requesting => 6
  | .flipping | .asleep _ _ => 5
  | .flipped _ | .entering _ => 4
  | .notifying | .checking _ => 3
  | .waking | .finishing _ => 2
  | .requested _ | .leaving _ => 1
  | .idle | .timing _ | .dozing _ => 0

end FlagPhase

def FlagEvent.caller? : FlagEvent → Option Nat
  | .request thread | .wait thread _ | .look thread => some thread
  | .pass _ | .poison | .step _ => none

namespace SharedShutdown

variable {shared after : SharedShutdown} {events : List FlagEvent} {event : FlagEvent}
  {threads : Threads FlagPhase} {thread : Nat} {phase : FlagPhase} {wait : FlagWait}

/-! ## The beginning of a wait -/

/-- The last call of `thread` on the run over `events` is `wait`, and it was begun in the
state `began`. -/
structure IsWaiting (events : List FlagEvent) (thread : Nat) (wait : FlagWait)
    (began : SharedShutdown) : Prop where
  call : ∃ before rest, events = before ++ .wait thread wait.timeout :: rest ∧
    initial.run before = some began ∧ ∀ event ∈ rest, event.caller? ≠ some thread
  late : wait.late = began.requested
  since : ∀ since, wait.since = some since → began.now ≤ since

theorem IsWaiting.snoc {began : SharedShutdown} (hwaiting : IsWaiting events thread wait began)
    (hevent : event.caller? ≠ some thread) : IsWaiting (events ++ [event]) thread wait began where
  call := by
    obtain ⟨before, rest, rfl, hrun, hrest⟩ := hwaiting.call
    refine ⟨before, rest ++ [event], by simp, hrun, ?_⟩
    intro other hmem
    rcases List.mem_append.mp hmem with hmem | hmem
    · exact hrest other hmem
    · rw [List.mem_singleton.mp hmem]
      exact hevent
  late := hwaiting.late
  since := hwaiting.since

def Begun (events : List FlagEvent) (now : Nanoseconds) (thread : Nat) (wait : FlagWait) : Prop :=
  ∃ began, IsWaiting events thread wait began ∧ began.now ≤ now

def Waiting (events : List FlagEvent) (now : Nanoseconds) (threads : Threads FlagPhase) : Prop :=
  ∀ thread wait, (threads.get thread).wait? = some wait → Begun events now thread wait

namespace Waiting

variable {now : Nanoseconds}

theorem set (hwaiting : Waiting events now threads)
    (hphase : ∀ wait, phase.wait? = some wait → Begun events now thread wait) :
    Waiting events now (threads.set thread phase) :=
  Threads.forall_get_set
    (fun thread (phase : FlagPhase) =>
      ∀ wait, phase.wait? = some wait → Begun events now thread wait)
    hphase fun other _ => hwaiting other

theorem notifyAll (hwaiting : Waiting events now threads) :
    Waiting events now (SharedShutdown.notifyAll threads) := by
  intro other wait hwait
  refine hwaiting other wait ?_
  rw [get_notifyAll] at hwait
  cases hphase : threads.get other <;> rw [hphase] at hwait <;> exact hwait

/-- Only a thread that is in no call begins one. -/
theorem snoc (hwaiting : Waiting events shared.now shared.threads)
    (hnext : shared.next event = some after) :
    Waiting (events ++ [event]) shared.now shared.threads := by
  intro thread wait hwait
  obtain ⟨began, hcall, hpast⟩ := hwaiting thread wait hwait
  refine ⟨began, hcall.snoc fun hcaller => ?_, hpast⟩
  cases stepped_of_next hnext with
  | requested caller hphase | waited caller timeout hphase | looked caller hphase =>
      obtain rfl := Option.some.inj hcaller
      rw [hphase] at hwait
      cases hwait
  | _ => cases hcaller

end Waiting

/-- A thread is in a wait only if it has begun it. -/
theorem waiting_next (hrun : initial.run events = some shared)
    (hwaiting : Waiting events shared.now shared.threads) (hnext : shared.next event = some after) :
    Waiting (events ++ [event]) after.now after.threads := by
  have hbefore := hwaiting.snoc hnext
  cases stepped_of_next hnext with
  | passed time =>
      intro thread wait hwait
      obtain ⟨began, hcall, hpast⟩ := hbefore thread wait hwait
      exact ⟨began, hcall, Nat.le_add_right_of_le hpast⟩
  | poisoned => exact hbefore
  | waited thread timeout hphase =>
      refine hbefore.set ?_
      rintro _ ⟨⟩
      exact ⟨shared, ⟨⟨events, [], rfl, hrun, nofun⟩, rfl, nofun⟩, Nat.le_refl _⟩
  | entered thread wait hphase =>
      refine hbefore.set ?_
      rintro _ ⟨⟩
      obtain ⟨began, hcall, hpast⟩ := hbefore thread wait (by rw [hphase]; rfl)
      refine ⟨began, ⟨hcall.call, hcall.late, ?_⟩, hpast⟩
      rintro _ ⟨⟩
      cases hsince : wait.since with
      | none => exact hpast
      | some since => exact hcall.since since hsince
  | broke thread wait hphase | slept thread wait hphase =>
      refine hbefore.set ?_
      rintro _ ⟨⟩
      obtain ⟨began, hcall, hpast⟩ := hbefore thread wait (by rw [hphase]; rfl)
      exact ⟨began, ⟨hcall.call, hcall.late, hcall.since⟩, hpast⟩
  | notified thread hphase => exact hbefore.notifyAll.set nofun
  | found thread wait hphase | missed thread wait hphase | expired thread wait hphase
  | remained thread wait hphase | woken thread wait notified hphase
  | finished thread wait hphase =>
      refine hbefore.set ?_
      rintro _ ⟨⟩
      exact hbefore thread wait (by rw [hphase]; rfl)
  | requested | looked | locked | flipped | won | lost | woke | answered | left =>
      exact hbefore.set nofun

/-! ## The end of a wait -/

/-- On the run over `events`, after `before`, a wait of `thread` that was begun in the
state `began` returns in the state `ended`. -/
structure HasReturned (events before : List FlagEvent) (thread : Nat) (wait : FlagWait)
    (waited : Nanoseconds) (result : Bool) (began ended : SharedShutdown) : Prop where
  returns : ∃ following, TakesStep next initial events before (.step thread) ended following ∧
    following.answers = ended.answers ++ [.waited wait waited result]
  call : IsWaiting before thread wait began
  lasted : began.now + waited ≤ ended.now
  result_eq : result = ended.requested
  /-- Without a request the whole time-out has passed, unless the lock was poisoned. -/
  full : result = false → wait.broken = false → wait.timeout ≤ waited
  /-- Only a wait that has slept can have got back a poisoned lock. -/
  broken : wait.broken = true → wait.slept = true ∧ ended.poisoned = true
  /-- If the flag was set in the beginning, the wait has not slept. -/
  prompt : began.requested = true → result = true ∧ wait.slept = false

theorem HasReturned.extend {before : List FlagEvent} {waited : Nanoseconds} {result : Bool}
    {began ended : SharedShutdown}
    (hreturned : HasReturned events before thread wait waited result began ended)
    (more : List FlagEvent) :
    HasReturned (events ++ more) before thread wait waited result began ended where
  returns := by
    obtain ⟨following, hstep, hanswers⟩ := hreturned.returns
    exact ⟨following, hstep.extend more, hanswers⟩
  call := hreturned.call
  lasted := hreturned.lasted
  result_eq := hreturned.result_eq
  full := hreturned.full
  broken := hreturned.broken
  prompt := hreturned.prompt

/-- A wait that is about to answer is over for one of the reasons there are. -/
theorem hasReturned_of_leaving (hrun : initial.run events = some shared)
    (horderly : Orderly events shared) (hwaiting : Waiting events shared.now shared.threads)
    (hphase : shared.threads.get thread = .leaving wait)
    (hnext : shared.next (.step thread) = some after)
    (hanswers : after.answers =
      shared.answers ++ [.waited wait (shared.elapsed wait) shared.requested]) :
    ∃ began, HasReturned (events ++ [.step thread]) events thread wait (shared.elapsed wait)
      shared.requested began shared := by
  obtain ⟨began, hcall, hpast⟩ := hwaiting thread wait (by rw [hphase]; rfl)
  have hfits := horderly.informed thread
  rw [hphase] at hfits
  obtain ⟨hover, hprompt⟩ := hfits
  refine ⟨began, ⟨after, TakesStep.last hrun hnext, hanswers⟩, hcall, ?_, rfl, ?_, ?_, ?_⟩
  · -- the time-out counts from a moment after the beginning
    rw [elapsed]
    cases hsince : wait.since with
    | none => simpa using hpast
    | some since =>
        have hbegan : began.now ≤ since := hcall.since since hsince
        exact Nat.add_le_of_le_sub' hpast (Nat.sub_le_sub_left hbegan shared.now)
  · intro hflag hwhole
    cases hover with
    | requested _ hset => exact absurd (hflag.symm.trans hset) Bool.false_ne_true
    | expired _ helapsed => exact Nat.le_of_lt helapsed
    | broken hbroken => exact absurd (hwhole.symm.trans hbroken) Bool.false_ne_true
  · intro hbroken
    cases hover with
    | requested hwhole | expired hwhole =>
        exact absurd (hwhole.symm.trans hbroken) Bool.false_ne_true
    | broken _ hslept hpoisoned => exact ⟨hslept, hpoisoned⟩
  · intro hset
    exact hprompt (hcall.late.trans hset)

/-- Every answer to a wait has been given to a wait that was begun. -/
def Returned (events : List FlagEvent) (answers : List FlagAnswer) : Prop :=
  ∀ wait waited result, .waited wait waited result ∈ answers →
    ∃ before thread began ended, HasReturned events before thread wait waited result began ended

theorem Returned.answer {answers : List FlagAnswer} {answer : FlagAnswer}
    (hreturned : Returned events answers)
    (hanswer : ∀ wait waited result, answer ≠ .waited wait waited result) :
    Returned events (answers ++ [answer]) := by
  intro wait waited result hmem
  rcases List.mem_append.mp hmem with hmem | hmem
  · exact hreturned wait waited result hmem
  · exact absurd (List.mem_singleton.mp hmem).symm (hanswer wait waited result)

/-- A step answers a wait only if the wait is over. -/
theorem returned_next (hrun : initial.run events = some shared)
    (horderly : Orderly events shared) (hwaiting : Waiting events shared.now shared.threads)
    (hreturned : Returned events shared.answers) (hnext : shared.next event = some after) :
    Returned (events ++ [event]) after.answers := by
  have hbefore : Returned (events ++ [event]) shared.answers := by
    intro wait waited result hmem
    obtain ⟨before, thread, began, ended, hcall⟩ := hreturned wait waited result hmem
    exact ⟨before, thread, began, ended, hcall.extend [event]⟩
  cases stepped_of_next hnext with
  | looked | answered => exact hbefore.answer nofun
  | left thread wait hphase =>
      intro other waited result hmem
      rcases List.mem_append.mp hmem with hmem | hmem
      · exact hbefore other waited result hmem
      · cases List.mem_singleton.mp hmem
        obtain ⟨began, hcall⟩ := hasReturned_of_leaving hrun horderly hwaiting hphase hnext rfl
        exact ⟨events, thread, began, shared, hcall⟩
  | _ => exact hbefore

/-! ## The whole of a run -/

/-- The flag stays set. -/
theorem requested_next (hflag : shared.requested = true) (hnext : shared.next event = some after) :
    after.requested = true := by
  cases stepped_of_next hnext with
  | flipped => rfl
  | _ => exact hflag

/-- The flag stays set once it is. -/
theorem requested_of_run (hflag : shared.requested = true) (hrun : shared.run events = some after) :
    after.requested = true :=
  foldlM_induction (fun _ shared => shared.requested = true) hflag
    (fun _ _ _ _ _ hflag hnext => requested_next hflag hnext) hrun

/-- Only the request that has won wakes the poller. -/
theorem woken_next (hnext : shared.next event = some after) (hwakes : after.wakes ≠ shared.wakes) :
    ∃ thread, event = .step thread ∧ shared.threads.get thread = .waking ∧
      after.threads.get thread = .requested true ∧ after.wakes = shared.wakes + 1 := by
  cases stepped_of_next hnext with
  | woke thread hphase => exact ⟨thread, rfl, hphase, Threads.get_set_self _ _ _, rfl⟩
  | _ => exact absurd rfl hwakes

/-- Every step of a request brings it nearer to its end. -/
theorem remaining_of_request (hnext : shared.next (.step thread) = some after)
    (hrequest : (shared.threads.get thread).isRequest = true) :
    (after.threads.get thread).remaining < (shared.threads.get thread).remaining := by
  cases stepped_of_next hnext with
  | locked | flipped | won | lost | notified | woke | answered =>
      simp_all [put, release, SharedShutdown.answer, FlagPhase.remaining]
  | _ => simp_all [FlagPhase.isRequest]

/-- A wait that began when the flag was set does not sleep. -/
theorem awake_of_late (horderly : Orderly events shared)
    (hwait : (shared.threads.get thread).wait? = some wait) (hlate : wait.late = true) :
    shared.requested = true ∧ wait.slept = false ∧
      shared.threads.get thread ∈
        [.entering wait, .checking wait, .finishing wait, .leaving wait] := by
  have hfits := horderly.informed thread
  cases hphase : shared.threads.get thread with
  | entering other | checking other =>
      rw [hphase] at hfits hwait
      obtain rfl := Option.some.inj hwait
      exact ⟨(hfits.2 hlate).1, (hfits.2 hlate).2, by simp⟩
  | finishing other | leaving other =>
      rw [hphase] at hfits hwait
      obtain rfl := Option.some.inj hwait
      exact ⟨(hfits.2 hlate).1, (hfits.2 hlate).2, by simp⟩
  | timing other | dozing other =>
      rw [hphase] at hfits hwait
      obtain rfl := Option.some.inj hwait
      exact absurd (hfits.2.1.symm.trans hlate) Bool.false_ne_true
  | asleep other notified =>
      rw [hphase] at hfits hwait
      obtain rfl := Option.some.inj hwait
      exact absurd (hfits.2.1.symm.trans hlate) Bool.false_ne_true
  | _ =>
      rw [hphase] at hwait
      cases hwait

/-- So every step of such a wait brings it nearer to its end. -/
theorem remaining_of_late (horderly : Orderly events shared)
    (hnext : shared.next (.step thread) = some after)
    (hwait : (shared.threads.get thread).wait? = some wait) (hlate : wait.late = true) :
    (after.threads.get thread).remaining < (shared.threads.get thread).remaining := by
  obtain ⟨hflag, -, hawake⟩ := awake_of_late horderly hwait hlate
  cases stepped_of_next hnext with
  | broke | entered | found | finished | left =>
      simp_all [put, release, SharedShutdown.answer, FlagPhase.remaining]
  | missed _ _ _ hunset => exact absurd (hunset.symm.trans hflag) Bool.false_ne_true
  | _ => simp_all

/-- Once the lock is poisoned, every step of a wait that sleeps brings it nearer to its
end: it does not look at the flag and the clock again. -/
theorem returning_of_poisoned (horderly : Orderly events shared)
    (hnext : shared.next (.step thread) = some after) (hpoisoned : shared.poisoned = true)
    (hreturns : (shared.threads.get thread).isReturning = true) :
    (after.threads.get thread).remaining < (shared.threads.get thread).remaining ∧
      ((after.threads.get thread).isReturning = true ∨ after.threads.get thread = .idle) := by
  have hfits := horderly.informed thread
  cases stepped_of_next hnext with
  | broke | woken | finished | left =>
      simp_all [put, release, SharedShutdown.answer, FlagPhase.remaining, FlagPhase.isReturning,
        FlagPhase.Fits]
  | entered _ wait hphase _ hwhole =>
      rw [hphase] at hreturns
      exact absurd ⟨hreturns, hpoisoned⟩ hwhole
  | _ => simp_all [FlagPhase.isReturning]

/-- If a request has won and returned, nobody sleeps who has not been woken. -/
theorem notified_of_answer (horderly : Orderly events shared)
    (hwon : .requested true ∈ shared.answers) :
    shared.wakes = 1 ∧ ∀ thread wait, shared.threads.get thread ≠ .asleep wait false := by
  have hcount : 0 < shared.answers.count (.requested true) := List.count_pos_iff.mpr hwon
  cases horderly.race with
  | undecided _ _ hanswers | won _ _ _ _ hanswers =>
      rw [hanswers] at hcount
      exact absurd hcount (Nat.lt_irrefl 0)
  | decided hflag hnobody _ hwakes =>
      refine ⟨hwakes, fun thread wait hasleep => ?_⟩
      obtain ⟨other, hnotifies⟩ := horderly.attended hflag thread (by rw [hasleep]; rfl)
      have hwins := FlagPhase.isWinning_of_isNotifying hnotifies
      exact absurd ((hnobody other).symm.trans hwins) Bool.false_ne_true

/-- What the callers can rely on after the run over `events`. -/
structure Reliable (events : List FlagEvent) (final : SharedShutdown) : Prop where
  /-- The flag is never taken back. -/
  kept : ∀ before earlier, before <+: events → initial.run before = some earlier →
    earlier.requested = true → final.requested = true
  /-- At most one request is told that it has flipped the flag. -/
  once : final.answers.count (.requested true) ≤ 1
  /-- One is, when all requests have returned. -/
  decided : events.any FlagEvent.isRequest = true →
    (∀ thread, (final.threads.get thread).isRequest = false) →
      final.answers.count (.requested true) = 1
  /-- The poller is woken by the request that is told so, and once. -/
  woken : ∀ before event earlier later,
    TakesStep next initial events before event earlier later → later.wakes ≠ earlier.wakes →
      ∃ thread, event = .step thread ∧ earlier.threads.get thread = .waking ∧
        later.threads.get thread = .requested true ∧ later.wakes = earlier.wakes + 1
  wakes : final.wakes ≤ 1 ∧ (.requested true ∈ final.answers → final.wakes = 1)
  /-- A wait that is told that there is no request has used up its time unless it was
  broken off, and one that began when the flag was set is told so and has not slept. -/
  returned : Returned events final.answers
  prompt : ∀ thread wait began, (final.threads.get thread).wait? = some wait →
    IsWaiting events thread wait began → began.requested = true →
      wait.slept = false ∧ final.threads.get thread ∈
        [.entering wait, .checking wait, .finishing wait, .leaving wait]
  /-- Once the lock is poisoned, a wait that sleeps is broken off when it wakes. -/
  broken : ∀ before thread earlier later,
    TakesStep next initial events before (.step thread) earlier later →
      earlier.poisoned = true → (earlier.threads.get thread).isReturning = true →
        (later.threads.get thread).remaining < (earlier.threads.get thread).remaining ∧
          ((later.threads.get thread).isReturning = true ∨ later.threads.get thread = .idle)
  /-- No wake-up is lost. -/
  notified : .requested true ∈ final.answers →
    ∀ thread wait, final.threads.get thread ≠ .asleep wait false
  /-- Requests and waits that need not sleep come nearer to their end with each step. -/
  nearer : ∀ before thread earlier later,
    TakesStep next initial events before (.step thread) earlier later →
      ((earlier.threads.get thread).isRequest = true ∨
        ∃ wait ∈ (earlier.threads.get thread).wait?, wait.late = true) →
        (later.threads.get thread).remaining < (earlier.threads.get thread).remaining
  /-- Whoever cannot go on needs the lock, and its holder can go on. -/
  unblocked : ∀ thread, final.threads.get thread ≠ .idle →
    (final.step thread).isSome = true ∨
      ∃ other, final.holder = some other ∧ (final.step other).isSome = true

/-- At most one request has won, and it has woken the poller at most once. -/
theorem count_of_race (hrace : Race shared.requested shared.wakes shared.answers shared.threads) :
    shared.answers.count (.requested true) ≤ 1 ∧ shared.wakes ≤ 1 := by
  cases hrace with
  | undecided _ _ hanswers hwakes =>
      rw [hanswers, hwakes]
      exact ⟨Nat.zero_le 1, Nat.zero_le 1⟩
  | won winner _ _ _ hanswers hwakes =>
      rw [hanswers, hwakes]
      exact ⟨Nat.zero_le 1, FlagPhase.wakes_le_one _⟩
  | decided _ _ hanswers hwakes =>
      rw [hanswers, hwakes]
      exact ⟨Nat.le_refl 1, Nat.le_refl 1⟩

/-- Once all requests have returned one of them has won. -/
theorem count_eq_one (horderly : Orderly events shared)
    (hrequest : events.any FlagEvent.isRequest = true)
    (hdone : ∀ thread, (shared.threads.get thread).isRequest = false) :
    shared.answers.count (.requested true) = 1 := by
  have hnone {thread : Nat} : (shared.threads.get thread).isRequest ≠ true :=
    Bool.eq_false_iff.mp (hdone thread)
  cases horderly.race with
  | undecided hflag =>
      rcases horderly.asked hrequest with hset | ⟨thread, hasking⟩
      · exact absurd (hflag.symm.trans hset) Bool.false_ne_true
      · exact absurd (FlagPhase.isRequest_of_isAsking hasking) hnone
  | won winner _ hwinner => exact absurd (FlagPhase.isRequest_of_isWinning hwinner) hnone
  | decided _ _ hanswers => exact hanswers

/-- Every answer to a wait on the run was given to one that was begun and is over. -/
theorem returned_of_run (hrun : initial.run events = some shared) :
    Returned events shared.answers := by
  have hwaits : Waiting events shared.now shared.threads ∧ Returned events shared.answers := by
    refine foldlM_induction (fun events shared =>
      Waiting events shared.now shared.threads ∧ Returned events shared.answers) ?_ ?_ hrun
    · exact ⟨nofun, nofun⟩
    · intro events shared event after hrun hwaits hnext
      exact ⟨waiting_next hrun hwaits.1 hnext,
        returned_next hrun (orderly_of_run hrun) hwaits.1 hwaits.2 hnext⟩
  exact hwaits.2

/-- However the steps of any number of requests and waits are mixed, and whether or not somebody
wakes for no reason or the lock is poisoned: one request flips the flag for good and wakes
everybody, and no wait gives up before its time is over unless the lock was poisoned while it
slept. -/
theorem reliable_of_run (hrun : initial.run events = some shared) : Reliable events shared where
  kept := by
    intro before earlier hfront hbefore hflag
    obtain ⟨more, hmore⟩ := exists_foldlM_of_prefix hfront hbefore hrun
    exact requested_of_run hflag hmore
  once := (count_of_race (orderly_of_run hrun).race).1
  decided := count_eq_one (orderly_of_run hrun)
  woken := by
    intro before event earlier later hstep hwakes
    exact woken_next hstep.next_eq hwakes
  wakes := ⟨(count_of_race (orderly_of_run hrun).race).2,
    fun hwon => (notified_of_answer (orderly_of_run hrun) hwon).1⟩
  returned := returned_of_run hrun
  prompt := by
    intro thread wait began hwait hcall hset
    have hlate : wait.late = true := hcall.late.trans hset
    exact (awake_of_late (orderly_of_run hrun) hwait hlate).2
  broken := by
    intro before thread earlier later hstep hpoisoned hreturns
    exact returning_of_poisoned (orderly_of_run hstep.run_before) hstep.next_eq hpoisoned hreturns
  notified := fun hwon => (notified_of_answer (orderly_of_run hrun) hwon).2
  nearer := by
    intro before thread earlier later hstep hcall
    rcases hcall with hrequest | ⟨wait, hwait, hlate⟩
    · exact remaining_of_request hstep.next_eq hrequest
    · exact remaining_of_late (orderly_of_run hstep.run_before) hstep.next_eq hwait hlate
  unblocked := fun thread => isSome_step_or (orderly_of_run hrun).locked

section Example

/-- A wait wakes for no reason while the lock is poisoned. -/
private def poisonedEvents : List FlagEvent :=
  [.wait 0 50, .step 0, .step 0, .step 0, .step 0, .poison, .pass 7, .step 0, .step 0, .step 0,
    .step 0]

/-- On a poisoned lock a wait answers that there is no request before its time is over. -/
theorem early_of_poisonedEvents :
    ∃ shared, initial.run poisonedEvents = some shared ∧ shared.requested = false ∧
      shared.answers = [.waited ⟨50, false, some 0, true, true⟩ 7 false] ∧ 7 < 50 :=
  ⟨_, rfl, rfl, rfl, by decide⟩

/-- A wait wakes for no reason, sleeps again and is woken by the first of two requests.
One wait runs out of time before the flag is set, one is broken off because the lock was
poisoned while it slept, and one comes after the flag was set. -/
private def contestedEvents : List FlagEvent :=
  -- the first thread goes to sleep, wakes for no reason, and goes to sleep again
  [.wait 0 50, .step 0, .step 0, .step 0, .step 0, .pass 10, .step 0, .step 0, .step 0, .step 0,
    .step 0,
    -- the second one sleeps until its time is over
    .wait 1 5, .step 1, .step 1, .step 1, .step 1, .pass 6, .step 1, .step 1, .step 1, .step 1,
    .step 1, .step 1,
    -- another one sleeps when the lock is poisoned, and wakes soon
    .wait 5 50, .step 5, .step 5, .step 5, .step 5, .poison, .step 5, .step 5, .step 5, .step 5,
    -- two requests meet; the one that comes second to the flag returns first
    .request 2, .request 3, .step 2, .step 2, .step 2, .step 3, .step 3, .step 3, .step 3,
    .wait 4 50, .step 4, .step 4, .step 4, .step 4,
    .step 2, .step 2, .step 2, .step 0, .step 0, .step 0, .step 0, .look 3]

/-- Four waits, two requests and a poisoned lock: every caller is answered, and one request has
won. -/
theorem reliable_of_contestedEvents :
    ∃ shared, initial.run contestedEvents = some shared ∧
      shared.answers = [.waited ⟨5, false, some 10, true, false⟩ 6 false,
        .waited ⟨50, false, some 16, true, true⟩ 0 false, .requested false,
        .waited ⟨50, true, some 16, false, false⟩ 0 true, .requested true,
        .waited ⟨50, false, some 0, true, true⟩ 16 true, .looked true] ∧
      Reliable contestedEvents shared :=
  ⟨_, rfl, rfl, reliable_of_run rfl⟩

end Example

end SharedShutdown

end LineLog
