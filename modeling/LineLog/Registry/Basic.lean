import LineLog.Ending
import LineLog.SocketAddress.Basic

/-!
# The registry of workers

The registry keeps every worker that has been started until it is joined.  A
worker occupies a numbered slot.  Freed slots are used again, the one freed last
first, before the registry grows.  Reaping removes the workers that have ended
and never waits for one that is still running; joining waits for all of them.
-/

namespace LineLog

structure Worker where
  /-- The number of the connection that the worker serves. -/
  id : Nat
  peer : SocketAddress
  /-- How the task ended, once it has. -/
  ending : Option Ending
  deriving DecidableEq, Repr

namespace Worker

def isDone (worker : Worker) : Bool :=
  worker.ending.isSome

/-- The task of the worker ends, unless it has ended before. -/
def finish (ending : Ending) (worker : Worker) : Worker :=
  { worker with ending := some (worker.ending.getD ending) }

/-- The name of the thread that runs the worker. -/
def threadName (worker : Worker) : String :=
  s!"client-{worker.id}"

end Worker

/-- How many workers a call joined, and how many of those had panicked. -/
structure JoinSummary where
  joined : Nat
  panicked : Nat
  deriving DecidableEq, Repr

namespace JoinSummary

def zero : JoinSummary := ⟨0, 0⟩

def record (ending : Ending) (summary : JoinSummary) : JoinSummary where
  joined := summary.joined + 1
  panicked := summary.panicked + if ending = .panicked then 1 else 0

def ofEndings (endings : List Ending) : JoinSummary :=
  endings.foldl (fun summary ending => summary.record ending) zero

end JoinSummary

structure Registry where
  slots : List (Option Worker)
  /-- The slots that were freed, the latest first. -/
  free : List Nat
  deriving DecidableEq, Repr

namespace Registry

def empty : Registry where
  slots := []
  free := []

def get? (registry : Registry) (key : Nat) : Option Worker :=
  registry.slots.getD key none

/-- The registered workers with their keys, in the order of the keys. -/
def entries (registry : Registry) : List (Nat × Worker) :=
  registry.slots.zipIdx.filterMap fun (slot, key) => slot.map (key, ·)

def length (registry : Registry) : Nat :=
  registry.entries.length

def isEmpty (registry : Registry) : Bool :=
  registry.entries.isEmpty

/-- Takes a worker into the slot that the result names. -/
def insert (worker : Worker) (registry : Registry) : Registry × Nat :=
  match registry.free with
  | key :: free => ({ slots := registry.slots.set key (some worker), free }, key)
  | [] =>
      ({ slots := registry.slots ++ [some worker], free := [] }, registry.slots.length)

/-- Frees a slot; a slot that is free already stays as it is. -/
def remove (key : Nat) (registry : Registry) : Registry :=
  match registry.get? key with
  | none => registry
  | some _ => { slots := registry.slots.set key none, free := key :: registry.free }

/-- The task of the worker at `key` ends, unless it has ended before. -/
def finish (key : Nat) (ending : Ending) (registry : Registry) : Registry :=
  match registry.get? key with
  | none => registry
  | some worker => { registry with slots := registry.slots.set key (some (worker.finish ending)) }

/-- The workers that have ended, with their keys and endings. -/
def done (registry : Registry) : List (Nat × Ending) :=
  registry.entries.filterMap fun (key, worker) => worker.ending.map (key, ·)

/-- Removes and joins every worker that has ended. -/
def reap (registry : Registry) : Registry × JoinSummary :=
  (registry.done.foldl (fun registry (key, _) => registry.remove key) registry,
    JoinSummary.ofEndings (registry.done.map (·.2)))

/-- Waits for every worker and empties the registry.  `later` says how the
workers end that are still running. -/
def joinAll (later : Worker → Ending) (registry : Registry) : Registry × JoinSummary :=
  (empty, JoinSummary.ofEndings
    (registry.entries.map fun (_, worker) => worker.ending.getD (later worker)))

end Registry

end LineLog
