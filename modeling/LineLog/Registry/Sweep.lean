import LineLog.Registry.Basic

/-!
# Sweeping the registry step by step

A sweep first looks at the registered workers one after the other and notes the
keys of those that have ended, and then removes and joins what it noted.
Joining all takes the workers out one after the other and waits for each.
Workers end at any moment, also between two steps of a call.

What happened is kept: the workers that were registered, those that were joined
and how they had ended, and the summaries of the calls that have returned.
-/

namespace LineLog

/-- What the owner of the registry is doing. -/
inductive SweepPhase where
  | idle
  /-- A sweep has still to look at `unseen` and has noted `noted`. -/
  | looking (unseen noted : List Nat)
  /-- A sweep has still to remove and join `noted`. -/
  | reaping (noted : List Nat) (summary : JoinSummary)
  /-- Every worker was taken out; `rest` have still to be joined. -/
  | joining (rest : List (Nat × Worker)) (summary : JoinSummary)
  deriving DecidableEq, Repr

namespace SweepPhase

/-- The task of the worker at `key` ends. -/
def finishEntry (key : Nat) (ending : Ending) (entry : Nat × Worker) : Nat × Worker :=
  if entry.1 = key then (key, entry.2.finish ending) else entry

/-- The task of a worker ends that was taken out to be joined. -/
def finish (key : Nat) (ending : Ending) : SweepPhase → SweepPhase
  | .joining rest summary => .joining (rest.map (finishEntry key ending)) summary
  | phase => phase

end SweepPhase

/-- A worker that was joined. -/
structure Joined where
  key : Nat
  worker : Worker
  ending : Ending
  deriving DecidableEq, Repr

structure Sweep where
  registry : Registry
  phase : SweepPhase
  /-- Every worker that was registered, with its key. -/
  inserted : List (Nat × Worker)
  joined : List Joined
  /-- What the calls returned. -/
  summaries : List JoinSummary
  deriving DecidableEq, Repr

inductive SweepEvent where
  /-- A worker is registered; its task may have ended already. -/
  | insert (worker : Worker)
  | reap
  | joinAll
  /-- The call that is under way takes its next step. -/
  | step
  /-- The task of the worker at a key ends. -/
  | finish (key : Nat) (ending : Ending)
  deriving DecidableEq, Repr

namespace Sweep

def initial : Sweep where
  registry := .empty
  phase := .idle
  inserted := []
  joined := []
  summaries := []

/-- The task of a worker ends, whether the worker is in its slot or was taken out
to be joined. -/
def finish (key : Nat) (ending : Ending) (sweep : Sweep) : Sweep :=
  { sweep with
    registry := sweep.registry.finish key ending
    phase := sweep.phase.finish key ending }

/-- A worker whose task has ended is joined. -/
def join (key : Nat) (worker : Worker) (ending : Ending) (sweep : Sweep) : Sweep :=
  { sweep with joined := sweep.joined ++ [⟨key, worker, ending⟩] }

/-- The call under way returns. -/
def finishCall (summary : JoinSummary) (sweep : Sweep) : Sweep :=
  { sweep with phase := .idle, summaries := sweep.summaries ++ [summary] }

/-- The next step of the call under way.  Joining a worker is possible only once
its task has ended. -/
def step (sweep : Sweep) : Option Sweep :=
  match sweep.phase with
  | .idle => none
  | .looking [] noted => some { sweep with phase := .reaping noted .zero }
  | .looking (key :: unseen) noted =>
      let done := (sweep.registry.get? key).any (·.isDone)
      some { sweep with phase := .looking unseen (if done then noted ++ [key] else noted) }
  | .reaping [] summary => some (sweep.finishCall summary)
  | .reaping (key :: noted) summary => do
      let worker ← sweep.registry.get? key
      let ending ← worker.ending
      some
        { sweep.join key worker ending with
          registry := sweep.registry.remove key
          phase := .reaping noted (summary.record ending) }
  | .joining [] summary => some (sweep.finishCall summary)
  | .joining ((key, worker) :: rest) summary => do
      let ending ← worker.ending
      some
        { sweep.join key worker ending with phase := .joining rest (summary.record ending) }

def next (sweep : Sweep) : SweepEvent → Option Sweep
  | .finish key ending => some (sweep.finish key ending)
  | .step => sweep.step
  | .insert worker =>
      if sweep.phase = .idle then
        let (registry, key) := sweep.registry.insert worker
        some { sweep with registry, inserted := sweep.inserted ++ [(key, worker)] }
      else none
  | .reap =>
      if sweep.phase = .idle then
        some { sweep with phase := .looking (sweep.registry.entries.map (·.1)) [] }
      else none
  | .joinAll =>
      if sweep.phase = .idle then
        some
          { sweep with
            registry := .empty
            phase := .joining sweep.registry.entries .zero }
      else none

/-- The registry after all of `events`, if they are possible one after the other. -/
def run (sweep : Sweep) (events : List SweepEvent) : Option Sweep :=
  events.foldlM next sweep

end Sweep

end LineLog
