import LineLog.Clock
import LineLog.Threads

/-!
# The shutdown flag among threads

Any number of threads request shutdown, wait for it with a time-out, and look at
the flag.  A request flips the flag under the lock, and the request that did
so then wakes every sleeper and after that the poller, without the lock.  A
waiter looks at the flag and then at the clock under the lock, and goes to sleep in
the same moment in which it gives the lock back; it may be woken by the request, by
the time-out or for no reason, and then takes the lock and looks again.

None of these calls can panic while it holds the lock.  If the lock is poisoned all
the same, everybody takes it as if it were not.  But a sleeper that gets back a poisoned
lock is told so, and its wait is over: neither the flag nor the clock is looked at to
see whether it was woken for a reason.
-/

namespace LineLog

/-- A wait for shutdown. -/
structure FlagWait where
  timeout : Nanoseconds
  /-- The flag was set already when the wait began. -/
  late : Bool
  /-- When the wait first held the lock, from which the time-out counts. -/
  since : Option Nanoseconds
  /-- The wait has slept. -/
  slept : Bool
  /-- The wait is over because it got back a poisoned lock from its sleep. -/
  broken : Bool
  deriving DecidableEq, Repr

/-- What a thread is doing. -/
inductive FlagPhase where
  | idle
  /-- Requests shutdown and needs the lock. -/
  | requesting
  /-- Holds the lock, about to flip the flag. -/
  | flipping
  /-- Holds the lock and has set the flag, being the first to do so if `won`. -/
  | flipped (won : Bool)
  /-- Flipped the flag and released the lock; the sleepers have to be woken. -/
  | notifying
  /-- Woke the sleepers; the poller has to be woken. -/
  | waking
  /-- A request is about to return. -/
  | requested (won : Bool)
  /-- A wait needs the lock. -/
  | entering (wait : FlagWait)
  /-- A wait holds the lock, about to look at the flag. -/
  | checking (wait : FlagWait)
  /-- A wait holds the lock and found the flag unset, about to look at the clock. -/
  | timing (wait : FlagWait)
  /-- A wait holds the lock and has time left, about to release the lock and sleep. -/
  | dozing (wait : FlagWait)
  /-- A wait sleeps; `notified` says that a request has woken it. -/
  | asleep (wait : FlagWait) (notified : Bool)
  /-- A wait is over and about to release the lock. -/
  | finishing (wait : FlagWait)
  /-- A wait has released the lock, about to look at the flag a last time. -/
  | leaving (wait : FlagWait)
  deriving DecidableEq, Repr

/-- A call that has returned. -/
inductive FlagAnswer where
  | requested (won : Bool)
  /-- A wait answered `result` after `waited`. -/
  | waited (wait : FlagWait) (waited : Nanoseconds) (result : Bool)
  | looked (result : Bool)
  deriving DecidableEq, Repr

structure SharedShutdown where
  requested : Bool
  /-- The thread that holds the lock. -/
  holder : Option Nat
  poisoned : Bool
  threads : Threads FlagPhase
  now : Nanoseconds
  /-- How often the poller has been woken. -/
  wakes : Nat
  /-- The calls that have returned, the earliest first. -/
  answers : List FlagAnswer

inductive FlagEvent where
  /-- Time passes. -/
  | pass (time : Nanoseconds)
  /-- A thread panics while it holds the lock for a moment. -/
  | poison
  | request (thread : Nat)
  | wait (thread : Nat) (timeout : Nanoseconds)
  | look (thread : Nat)
  /-- The thread takes the next step of its call. -/
  | step (thread : Nat)
  deriving DecidableEq, Repr

namespace SharedShutdown

def initial : SharedShutdown where
  requested := false
  holder := none
  poisoned := false
  threads := .all .idle
  now := 0
  wakes := 0
  answers := []

def put (thread : Nat) (phase : FlagPhase) (shared : SharedShutdown) : SharedShutdown :=
  { shared with threads := shared.threads.set thread phase }

/-- The call of a thread returns. -/
def answer (thread : Nat) (answer : FlagAnswer) (shared : SharedShutdown) : SharedShutdown :=
  { shared.put thread .idle with answers := shared.answers ++ [answer] }

def acquire (thread : Nat) (phase : FlagPhase) (shared : SharedShutdown) :
    Option SharedShutdown :=
  if shared.holder = none then some { shared.put thread phase with holder := some thread }
  else none

def release (thread : Nat) (phase : FlagPhase) (shared : SharedShutdown) : SharedShutdown :=
  { shared.put thread phase with holder := none }

/-- Wakes every sleeper. -/
def notifyAll (threads : Threads FlagPhase) : Threads FlagPhase := fun thread =>
  match threads.get thread with
  | .asleep wait _ => .asleep wait true
  | phase => phase

/-- How long a wait has lasted. -/
def elapsed (wait : FlagWait) (shared : SharedShutdown) : Nanoseconds :=
  shared.now - wait.since.getD shared.now

/-- How a wait goes on that has got the lock. -/
def resumed (wait : FlagWait) (shared : SharedShutdown) : FlagPhase :=
  if wait.slept = true ∧ shared.poisoned = true then .finishing { wait with broken := true }
  else .checking { wait with since := some (wait.since.getD shared.now) }

/-- The next step of the call that a thread is in. -/
def step (thread : Nat) (shared : SharedShutdown) : Option SharedShutdown :=
  match shared.threads.get thread with
  | .idle => none
  | .requesting => shared.acquire thread .flipping
  | .flipping =>
      some { shared.put thread (.flipped (!shared.requested)) with requested := true }
  | .flipped true => some (shared.release thread .notifying)
  | .flipped false => some (shared.release thread (.requested false))
  | .notifying =>
      some ({ shared with threads := notifyAll shared.threads }.put thread .waking)
  | .waking => some { shared.put thread (.requested true) with wakes := shared.wakes + 1 }
  | .requested won => some (shared.answer thread (.requested won))
  | .entering wait => shared.acquire thread (shared.resumed wait)
  | .checking wait =>
      some (shared.put thread (if shared.requested then .finishing wait else .timing wait))
  | .timing wait =>
      some (shared.put thread
        (if wait.timeout < shared.elapsed wait then .finishing wait else .dozing wait))
  | .dozing wait => some (shared.release thread (.asleep { wait with slept := true } false))
  | .asleep wait _ => some (shared.put thread (.entering wait))
  | .finishing wait => some (shared.release thread (.leaving wait))
  | .leaving wait =>
      some (shared.answer thread (.waited wait (shared.elapsed wait) shared.requested))

def next (shared : SharedShutdown) : FlagEvent → Option SharedShutdown
  | .pass time => some { shared with now := shared.now + time }
  | .poison => if shared.holder = none then some { shared with poisoned := true } else none
  | .request thread =>
      if shared.threads.get thread = .idle then some (shared.put thread .requesting) else none
  | .wait thread timeout =>
      if shared.threads.get thread = .idle then
        some (shared.put thread (.entering ⟨timeout, shared.requested, none, false, false⟩))
      else none
  | .look thread =>
      if shared.threads.get thread = .idle then
        some (shared.answer thread (.looked shared.requested))
      else none
  | .step thread => shared.step thread

/-- The flag after all of `events`, if they are possible one after the other. -/
def run (shared : SharedShutdown) (events : List FlagEvent) : Option SharedShutdown :=
  events.foldlM next shared

end SharedShutdown

end LineLog
