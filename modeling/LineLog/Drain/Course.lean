import LineLog.Drain
import LineLog.Registry.Sweep
import LineLog.Store.History

/-!
# The course of a drain

A drain takes its steps one after the other: it requests shutdown, joins the
ticker, joins the workers, and removes the store.  Joining waits for the task
that is joined.  Meanwhile the tasks go on, use the store, and end at any
moment and in any order; others may change the host and request shutdown too.
-/

namespace LineLog

namespace DrainReport

/-- What a drain with this report returns. -/
def result (report : DrainReport) : Except DrainReport Unit :=
  if report.isClean then .ok () else .error report

/-- The report once the store is removed, or that has failed. -/
def enter (removed : Except StoreError Unit) (report : DrainReport) : DrainReport :=
  match removed with
  | .ok () => report
  | .error error => { report with store := some error }

end DrainReport

/-- What the drain does next. -/
inductive DrainPhase where
  | triggering
  | joiningTicker
  | joiningWorkers (tickerPanicked : Bool)
  /-- The store is removed, and the failure of that is entered into the report. -/
  | removing (report : DrainReport)
  | returned (result : Except DrainReport Unit)

/-- What the drain does after a step of the joining that was in this phase. -/
def DrainPhase.afterJoining (tickerPanicked : Bool) : SweepPhase → DrainPhase
  | .joining [] summary => .removing ⟨summary.panicked, tickerPanicked, none⟩
  | _ => .joiningWorkers tickerPanicked

structure Draining where
  phase : DrainPhase
  shutdown : Shutdown
  /-- The ticker, if there is one, and how it ended, once it has. -/
  ticker : Option (Option Ending)
  workers : Sweep
  store : Store
  host : Host

inductive DrainEvent where
  /-- The drain takes its next step. -/
  | step
  /-- Somebody else requests shutdown. -/
  | trigger
  | tickerEnds (ending : Ending)
  /-- The task of the worker at a key ends. -/
  | workerEnds (key : Nat) (ending : Ending)
  /-- Somebody else calls the store. -/
  | call (call : StoreCall)
  /-- Somebody else changes the host. -/
  | change (change : Host → Host)

namespace Draining

/-- A drain that is about to begin. -/
def initial (shutdown : Shutdown) (ticker : Option (Option Ending)) (registry : Registry)
    (store : Store) (host : Host) : Draining where
  phase := .triggering
  shutdown
  ticker
  workers := { Sweep.initial with registry, inserted := registry.entries }
  store
  host

/-- Whether the ticker panicked, once there is no ticker that runs. -/
def tickerPanicked? (draining : Draining) : Option Bool :=
  match draining.ticker with
  | none => some false
  | some ending => ending.map (· = .panicked)

/-- The store is removed, and the drain returns. -/
def remove (report : DrainReport) (draining : Draining) : Draining :=
  let ((host, store), removed) := draining.store.remove draining.host
  { draining with store, host, phase := .returned (report.enter removed).result }

/-- The next step of the drain.  A task can be joined only once it has ended. -/
def step (draining : Draining) : Option Draining :=
  match draining.phase with
  | .triggering =>
      some { draining with shutdown := draining.shutdown.trigger.1, phase := .joiningTicker }
  | .joiningTicker => do
      let tickerPanicked ← draining.tickerPanicked?
      let workers ← draining.workers.next .joinAll
      some { draining with workers, phase := .joiningWorkers tickerPanicked }
  | .joiningWorkers tickerPanicked => do
      let workers ← draining.workers.next .step
      some
        { draining with
          workers, phase := .afterJoining tickerPanicked draining.workers.phase }
  | .removing report => some (draining.remove report)
  | .returned _ => none

def next (draining : Draining) : DrainEvent → Option Draining
  | .step => draining.step
  | .trigger => some { draining with shutdown := draining.shutdown.trigger.1 }
  | .tickerEnds ending =>
      some { draining with ticker := draining.ticker.map fun former => some (former.getD ending) }
  | .workerEnds key ending =>
      (draining.workers.next (.finish key ending)).map fun workers => { draining with workers }
  | .call call =>
      let ((host, store), _) := draining.store.call call draining.host
      some { draining with store, host }
  | .change change => some { draining with host := change draining.host }

/-- The drain after all of `events`, if they are possible one after the other. -/
def run (draining : Draining) (events : List DrainEvent) : Option Draining :=
  events.foldlM next draining

end Draining

end LineLog
