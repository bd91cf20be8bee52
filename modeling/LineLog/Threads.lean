/-!
# A state for every thread

Threads are numbered.  A table holds the state of each, and a step of one thread
leaves the states of all others alone.
-/

namespace LineLog

def Threads (State : Type) := Nat → State

namespace Threads

variable {State : Type}

/-- Every thread in the same state. -/
def all (state : State) : Threads State :=
  fun _ => state

def get (threads : Threads State) (thread : Nat) : State :=
  threads thread

def set (threads : Threads State) (thread : Nat) (state : State) : Threads State :=
  fun other => if other = thread then state else threads other

@[simp]
theorem get_all (state : State) (thread : Nat) : (all state).get thread = state := rfl

@[simp]
theorem get_set_self (threads : Threads State) (thread : Nat) (state : State) :
    (threads.set thread state).get thread = state := by
  simp [get, set]

theorem get_set_of_ne (threads : Threads State) {thread other : Nat} (state : State)
    (hne : other ≠ thread) : (threads.set thread state).get other = threads.get other := by
  simp [get, set, hne]

/-- What holds of the new state of one thread and of the states of all others. -/
theorem forall_get_set {threads : Threads State} {thread : Nat} {state : State}
    (Holds : Nat → State → Prop) (hself : Holds thread state)
    (hothers : ∀ other, other ≠ thread → Holds other (threads.get other)) (other : Nat) :
    Holds other ((threads.set thread state).get other) := by
  by_cases hother : other = thread
  · subst hother
    rw [get_set_self]
    exact hself
  · rw [get_set_of_ne threads state hother]
    exact hothers other hother

end Threads

end LineLog
