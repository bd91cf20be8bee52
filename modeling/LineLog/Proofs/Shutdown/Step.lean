import LineLog.Shutdown.Basic
import LineLog.Shutdown.Shared
import Mathlib.Data.Option.Basic

/-!
# Steps of the calls on the shutdown flag

What a thread can do next follows from where it is in its call.  A call works under
the lock in some of its phases only, and the lock is held by the thread that is in
such a phase.  So the calls never block one another for good: whoever holds the lock
can go on.
-/

namespace LineLog

namespace FlagPhase

def isHolding : FlagPhase → Bool
  | .flipping | .flipped _ | .checking _ | .timing _ | .dozing _ | .finishing _ => true
  | _ => false

/-- The phase of a thread after all sleepers have been woken. -/
def notified : FlagPhase → FlagPhase
  | .asleep wait _ => .asleep wait true
  | phase => phase

end FlagPhase

namespace SharedShutdown

variable {shared after : SharedShutdown}

/-! ## What a step does -/

inductive Stepped (shared : SharedShutdown) : FlagEvent → SharedShutdown → Prop where
  | passed (time : Nanoseconds) :
      Stepped shared (.pass time) { shared with now := shared.now + time }
  | poisoned (hfree : shared.holder = none) :
      Stepped shared .poison { shared with poisoned := true }
  | requested (thread : Nat) (hphase : shared.threads.get thread = .idle) :
      Stepped shared (.request thread) (shared.put thread .requesting)
  | waited (thread : Nat) (timeout : Nanoseconds)
      (hphase : shared.threads.get thread = .idle) :
      Stepped shared (.wait thread timeout)
        (shared.put thread (.entering ⟨timeout, shared.requested, none, false, false⟩))
  | looked (thread : Nat) (hphase : shared.threads.get thread = .idle) :
      Stepped shared (.look thread) (shared.answer thread (.looked shared.requested))
  | locked (thread : Nat) (hphase : shared.threads.get thread = .requesting)
      (hfree : shared.holder = none) :
      Stepped shared (.step thread) { shared.put thread .flipping with holder := some thread }
  | flipped (thread : Nat) (hphase : shared.threads.get thread = .flipping) :
      Stepped shared (.step thread)
        { shared.put thread (.flipped (!shared.requested)) with requested := true }
  | won (thread : Nat) (hphase : shared.threads.get thread = .flipped true) :
      Stepped shared (.step thread) (shared.release thread .notifying)
  | lost (thread : Nat) (hphase : shared.threads.get thread = .flipped false) :
      Stepped shared (.step thread) (shared.release thread (.requested false))
  | notified (thread : Nat) (hphase : shared.threads.get thread = .notifying) :
      Stepped shared (.step thread)
        ({ shared with threads := notifyAll shared.threads }.put thread .waking)
  | woke (thread : Nat) (hphase : shared.threads.get thread = .waking) :
      Stepped shared (.step thread)
        { shared.put thread (.requested true) with wakes := shared.wakes + 1 }
  | answered (thread : Nat) (won : Bool)
      (hphase : shared.threads.get thread = .requested won) :
      Stepped shared (.step thread) (shared.answer thread (.requested won))
  | broke (thread : Nat) (wait : FlagWait)
      (hphase : shared.threads.get thread = .entering wait) (hfree : shared.holder = none)
      (hslept : wait.slept = true) (hpoisoned : shared.poisoned = true) :
      Stepped shared (.step thread)
        { shared.put thread (.finishing { wait with broken := true }) with holder := some thread }
  | entered (thread : Nat) (wait : FlagWait)
      (hphase : shared.threads.get thread = .entering wait) (hfree : shared.holder = none)
      (hwhole : ¬(wait.slept = true ∧ shared.poisoned = true)) :
      Stepped shared (.step thread)
        { shared.put thread (.checking { wait with since := some (wait.since.getD shared.now) })
          with holder := some thread }
  | found (thread : Nat) (wait : FlagWait)
      (hphase : shared.threads.get thread = .checking wait) (hflag : shared.requested = true) :
      Stepped shared (.step thread) (shared.put thread (.finishing wait))
  | missed (thread : Nat) (wait : FlagWait)
      (hphase : shared.threads.get thread = .checking wait) (hflag : shared.requested = false) :
      Stepped shared (.step thread) (shared.put thread (.timing wait))
  | expired (thread : Nat) (wait : FlagWait)
      (hphase : shared.threads.get thread = .timing wait)
      (helapsed : wait.timeout < shared.elapsed wait) :
      Stepped shared (.step thread) (shared.put thread (.finishing wait))
  | remained (thread : Nat) (wait : FlagWait)
      (hphase : shared.threads.get thread = .timing wait) :
      Stepped shared (.step thread) (shared.put thread (.dozing wait))
  | slept (thread : Nat) (wait : FlagWait)
      (hphase : shared.threads.get thread = .dozing wait) :
      Stepped shared (.step thread)
        (shared.release thread (.asleep { wait with slept := true } false))
  | woken (thread : Nat) (wait : FlagWait) (notified : Bool)
      (hphase : shared.threads.get thread = .asleep wait notified) :
      Stepped shared (.step thread) (shared.put thread (.entering wait))
  | finished (thread : Nat) (wait : FlagWait)
      (hphase : shared.threads.get thread = .finishing wait) :
      Stepped shared (.step thread) (shared.release thread (.leaving wait))
  | left (thread : Nat) (wait : FlagWait)
      (hphase : shared.threads.get thread = .leaving wait) :
      Stepped shared (.step thread)
        (shared.answer thread (.waited wait (shared.elapsed wait) shared.requested))

theorem acquire_eq_some_iff {thread : Nat} {phase : FlagPhase} :
    shared.acquire thread phase = some after ↔
      shared.holder = none ∧ { shared.put thread phase with holder := some thread } = after := by
  rw [acquire, Option.ite_none_right_eq_some, Option.some_inj]

theorem stepped_of_step {thread : Nat} (hstep : shared.step thread = some after) :
    Stepped shared (.step thread) after := by
  rw [step] at hstep
  cases hphase : shared.threads.get thread with
  | idle =>
      rw [hphase] at hstep
      cases hstep
  | requesting =>
      rw [hphase] at hstep
      obtain ⟨hfree, rfl⟩ := acquire_eq_some_iff.mp hstep
      exact .locked thread hphase hfree
  | flipping =>
      rw [hphase] at hstep
      obtain rfl := Option.some.inj hstep
      exact .flipped thread hphase
  | flipped won =>
      rw [hphase] at hstep
      cases won with
      | true =>
          obtain rfl := Option.some.inj hstep
          exact .won thread hphase
      | false =>
          obtain rfl := Option.some.inj hstep
          exact .lost thread hphase
  | notifying =>
      rw [hphase] at hstep
      obtain rfl := Option.some.inj hstep
      exact .notified thread hphase
  | waking =>
      rw [hphase] at hstep
      obtain rfl := Option.some.inj hstep
      exact .woke thread hphase
  | requested won =>
      rw [hphase] at hstep
      obtain rfl := Option.some.inj hstep
      exact .answered thread won hphase
  | entering wait =>
      rw [hphase] at hstep
      obtain ⟨hfree, rfl⟩ := acquire_eq_some_iff.mp hstep
      by_cases hbroken : wait.slept = true ∧ shared.poisoned = true
      · rw [resumed, if_pos hbroken]
        exact .broke thread wait hphase hfree hbroken.1 hbroken.2
      · rw [resumed, if_neg hbroken]
        exact .entered thread wait hphase hfree hbroken
  | checking wait =>
      rw [hphase] at hstep
      obtain rfl := Option.some.inj hstep
      cases hflag : shared.requested with
      | true => exact .found thread wait hphase hflag
      | false => exact .missed thread wait hphase hflag
  | timing wait =>
      rw [hphase] at hstep
      obtain rfl := Option.some.inj hstep
      by_cases helapsed : wait.timeout < shared.elapsed wait
      · rw [if_pos helapsed]
        exact .expired thread wait hphase helapsed
      · rw [if_neg helapsed]
        exact .remained thread wait hphase
  | dozing wait =>
      rw [hphase] at hstep
      obtain rfl := Option.some.inj hstep
      exact .slept thread wait hphase
  | asleep wait notified =>
      rw [hphase] at hstep
      obtain rfl := Option.some.inj hstep
      exact .woken thread wait notified hphase
  | finishing wait =>
      rw [hphase] at hstep
      obtain rfl := Option.some.inj hstep
      exact .finished thread wait hphase
  | leaving wait =>
      rw [hphase] at hstep
      obtain rfl := Option.some.inj hstep
      exact .left thread wait hphase

/-- Every step of the calls is one of those listed. -/
theorem stepped_of_next {event : FlagEvent} (hnext : shared.next event = some after) :
    Stepped shared event after := by
  cases event with
  | pass time =>
      obtain rfl := Option.some.inj hnext
      exact .passed time
  | poison =>
      obtain ⟨hfree, hafter⟩ := Option.ite_none_right_eq_some.mp hnext
      obtain rfl := Option.some.inj hafter
      exact .poisoned hfree
  | request thread =>
      obtain ⟨hphase, hafter⟩ := Option.ite_none_right_eq_some.mp hnext
      obtain rfl := Option.some.inj hafter
      exact .requested thread hphase
  | wait thread timeout =>
      obtain ⟨hphase, hafter⟩ := Option.ite_none_right_eq_some.mp hnext
      obtain rfl := Option.some.inj hafter
      exact .waited thread timeout hphase
  | look thread =>
      obtain ⟨hphase, hafter⟩ := Option.ite_none_right_eq_some.mp hnext
      obtain rfl := Option.some.inj hafter
      exact .looked thread hphase
  | step thread => exact stepped_of_step hnext

theorem get_notifyAll (threads : Threads FlagPhase) (thread : Nat) :
    (notifyAll threads).get thread = (threads.get thread).notified := rfl

/-! ## The lock -/

/-- A thread in `phase` has the lock exactly if it is the holder. -/
def AgreesOn (holder : Option Nat) (thread : Nat) (phase : FlagPhase) : Prop :=
  phase.isHolding = true ↔ holder = some thread

/-- The lock is held by the thread that is in a phase under the lock, and by no other. -/
def Locked (holder : Option Nat) (threads : Threads FlagPhase) : Prop :=
  ∀ thread, AgreesOn holder thread (threads.get thread)

namespace Locked

variable {holder : Option Nat} {threads : Threads FlagPhase} {thread : Nat} {phase : FlagPhase}

theorem set (hlocked : Locked holder threads)
    (hsame : phase.isHolding = (threads.get thread).isHolding) :
    Locked holder (threads.set thread phase) := by
  refine Threads.forall_get_set (AgreesOn holder) ?_ fun other _ => hlocked other
  rw [AgreesOn, hsame]
  exact hlocked thread

/-- Who takes a free lock is the only one under it. -/
theorem acquire (hlocked : Locked none threads) (hphase : phase.isHolding = true) :
    Locked (some thread) (threads.set thread phase) := by
  refine Threads.forall_get_set (AgreesOn (some thread)) ?_ fun other hother => ?_
  · simp [AgreesOn, hphase]
  · refine Iff.trans (hlocked other) ?_
    simp [Ne.symm hother]

/-- Who gives up the lock leaves nobody under it. -/
theorem release (hlocked : Locked holder threads)
    (hholds : (threads.get thread).isHolding = true) (hphase : phase.isHolding = false) :
    Locked none (threads.set thread phase) := by
  have hholder : holder = some thread := (hlocked thread).mp hholds
  refine Threads.forall_get_set (AgreesOn none) ?_ fun other hother => ?_
  · simp [AgreesOn, hphase]
  · refine Iff.trans (hlocked other) ?_
    simp [hholder, Ne.symm hother]

theorem notifyAll (hlocked : Locked holder threads) :
    Locked holder (SharedShutdown.notifyAll threads) := by
  intro other
  refine Iff.trans ?_ (hlocked other)
  rw [get_notifyAll]
  cases threads.get other <;> rfl

/-- Of two threads at most one is in a phase under the lock. -/
theorem eq_of_isHolding {other : Nat} (hlocked : Locked holder threads)
    (hthread : (threads.get thread).isHolding = true)
    (hother : (threads.get other).isHolding = true) : other = thread :=
  Option.some.inj (((hlocked other).mp hother).symm.trans ((hlocked thread).mp hthread))

end Locked

/-- The lock is handed on from step to step without two threads ever being under it. -/
theorem locked_next {event : FlagEvent} (hlocked : Locked shared.holder shared.threads)
    (hnext : shared.next event = some after) : Locked after.holder after.threads := by
  cases stepped_of_next hnext with
  | passed | poisoned => exact hlocked
  | locked thread hphase hfree | broke thread wait hphase hfree
  | entered thread wait hphase hfree =>
      rw [hfree] at hlocked
      exact hlocked.acquire rfl
  | won thread hphase | lost thread hphase | slept thread wait hphase
  | finished thread wait hphase => exact hlocked.release (by rw [hphase]; rfl) rfl
  | notified thread hphase =>
      exact hlocked.notifyAll.set (by rw [get_notifyAll, hphase]; rfl)
  | requested thread hphase | waited thread timeout hphase | looked thread hphase
  | flipped thread hphase | woke thread hphase | answered thread won hphase
  | found thread wait hphase | missed thread wait hphase | expired thread wait hphase
  | remained thread wait hphase | woken thread wait notified hphase | left thread wait hphase =>
      exact hlocked.set (by simp [hphase, FlagPhase.isHolding])

/-! ## Nobody is stuck -/

/-- A thread that holds the lock can go on. -/
theorem isSome_step_of_isHolding {thread : Nat}
    (hholds : (shared.threads.get thread).isHolding = true) :
    (shared.step thread).isSome = true := by
  unfold step
  split <;> simp_all [FlagPhase.isHolding]

/-- A thread that cannot go on in its call needs the lock that another thread holds. -/
theorem isSome_step_or {thread : Nat} (hlocked : Locked shared.holder shared.threads)
    (hbusy : shared.threads.get thread ≠ .idle) :
    (shared.step thread).isSome = true ∨
      ∃ other, shared.holder = some other ∧ (shared.step other).isSome = true := by
  cases hholder : shared.holder with
  | some other =>
      exact .inr ⟨other, rfl, isSome_step_of_isHolding ((hlocked other).mpr hholder)⟩
  | none =>
      left
      unfold step
      split <;> simp_all [acquire]

/-! ## A request without others -/

/-- A request that no other call disturbs does what `Shutdown.trigger` says at once. -/
theorem run_request {thread : Nat} (hphase : shared.threads.get thread = .idle)
    (hfree : shared.holder = none) (pending : Bool) :
    ∃ count, (shared.run (.request thread :: List.replicate count (.step thread))).map
        (fun final => (final.threads.get thread, final.requested, final.answers)) =
      some (.idle, (Shutdown.trigger ⟨shared.requested, pending⟩).1.requested,
        shared.answers ++ [.requested (Shutdown.trigger ⟨shared.requested, pending⟩).2]) := by
  cases hflag : shared.requested with
  | true =>
      refine ⟨4, ?_⟩
      simp [run, next, step, hphase, hfree, hflag, put, acquire, release, answer, List.replicate,
        Shutdown.trigger]
  | false =>
      refine ⟨6, ?_⟩
      simp [run, next, step, hphase, hfree, hflag, put, acquire, release, answer, List.replicate,
        Shutdown.trigger]

end SharedShutdown

end LineLog
