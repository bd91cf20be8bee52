import LineLog.Registry.Basic
import LineLog.Shutdown.Basic
import LineLog.Store.Basic

/-!
# Draining the service

Once the accept loop has stopped, the drain requests shutdown, joins the ticker
and every worker, and removes the store, in this order and whatever failed
before.  Its report collects what went wrong; a report without entries is a
clean shutdown.
-/

namespace LineLog

structure DrainReport where
  panickedWorkers : Nat
  tickerPanicked : Bool
  store : Option StoreError
  deriving DecidableEq, Repr

namespace DrainReport

def isClean (report : DrainReport) : Bool :=
  report.panickedWorkers = 0 && !report.tickerPanicked && report.store.isNone

def problems (report : DrainReport) : List String :=
  (if 0 < report.panickedWorkers then [s!"{report.panickedWorkers} worker(s) panicked"]
    else []) ++
  (if report.tickerPanicked then ["timestamp ticker panicked"] else []) ++
  report.store.toList.map (·.message)

def message (report : DrainReport) : String :=
  "Unclean shutdown: " ++ "; ".intercalate report.problems

/-- The messages of the causes, the nearest first. -/
def sources (report : DrainReport) : List String :=
  match report.store with
  | some error => error.message :: error.sources
  | none => []

end DrainReport

/-- The parts of a service that the drain brings to an end. -/
structure Service where
  shutdown : Shutdown
  /-- How the ticker ends, if there is one. -/
  ticker : Option Ending
  registry : Registry
  store : Store

namespace Service

/-- Drains the service.  `later` says how the workers end that are still
running. -/
def drain (later : Worker → Ending) (service : Service) (host : Host) :
    (Service × Host) × DrainReport :=
  let (shutdown, _) := service.shutdown.trigger
  let (registry, joined) := service.registry.joinAll later
  let ((host, store), removed) := service.store.remove host
  (({ shutdown, ticker := none, registry, store }, host),
    { panickedWorkers := joined.panicked
      tickerPanicked := service.ticker = some .panicked
      store := match removed with
        | .ok () => none
        | .error error => some error })

end Service

end LineLog
