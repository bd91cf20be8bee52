/-!
# Descriptors

Whatever a process opens gets the lowest number that is free.  A limit keeps
numbers from being given out from some number on, but what is open already stays
open, even beyond the limit.
-/

namespace LineLog

structure Descriptors where
  /-- The numbers that are in use. -/
  taken : List Nat
  /-- The first number that is not given out, if there is one. -/
  limit : Option Nat
  deriving DecidableEq, Repr

namespace Descriptors

/-- Nothing is open and there is no limit. -/
def none : Descriptors where
  taken := []
  limit := .none

/-- The free number in front of which there are `count` others.  Every number in
use that is not above it moves it up by one. -/
def freeBehind (count : Nat) (descriptors : Descriptors) : Nat :=
  descriptors.taken.mergeSort.foldl (fun number taken =>
    if taken ≤ number then number + 1 else number) count

/-- The lowest free number. -/
def lowest (descriptors : Descriptors) : Nat :=
  descriptors.freeBehind 0

/-- Takes the lowest free number, unless the limit forbids it. -/
def take? (descriptors : Descriptors) : Option (Nat × Descriptors) :=
  let number := descriptors.lowest
  if descriptors.limit.any (· ≤ number) then .none
  else some (number, { descriptors with taken := number :: descriptors.taken })

def release (number : Nat) (descriptors : Descriptors) : Descriptors :=
  { descriptors with taken := descriptors.taken.filter (· ≠ number) }

/-- Sets the limit so that `count` more numbers can be taken. -/
def leaveRoom (count : Nat) (descriptors : Descriptors) : Descriptors :=
  { descriptors with limit := some (descriptors.freeBehind count) }

def lift (descriptors : Descriptors) : Descriptors :=
  { descriptors with limit := .none }

end Descriptors

end LineLog
