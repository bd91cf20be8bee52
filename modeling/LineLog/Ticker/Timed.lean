import LineLog.Log
import LineLog.Ticker.Basic
import LineLog.Ticker.Phase

/-!
# The ticker against the clock

The ticker waits for its deadline, attempts to append a record, reads the clock, sets the
next deadline, and starts again.  Time may pass anywhere and in any amount: a wait may end
late, an append may take long, and the thread may stall between any two steps.  Only a
request for shutdown ends a wait early.  Others use the log meanwhile, and whether an append
succeeds is none of the ticker's concern.
-/

namespace LineLog

/-- A round of the ticker that is over. -/
structure TickerRound where
  deadline : Nanoseconds
  /-- What the clock read when the next deadline was set. -/
  reading : Nanoseconds
  deriving DecidableEq, Repr

structure TimedTicker where
  ticker : Ticker
  phase : TickerPhase
  /-- What the clock reads. -/
  now : Nanoseconds
  /-- When the wait is over, once it has begun. -/
  wakes : Option Nanoseconds
  /-- The shutdown flag. -/
  stopping : Bool
  log : Log
  rounds : List TickerRound
  /-- The moments of the attempts to append. -/
  attempts : List Nanoseconds
  deriving DecidableEq, Repr

inductive TimedEvent where
  | pass (time : Nanoseconds)
  /-- Shutdown is requested. -/
  | trigger
  /-- Somebody else uses the log. -/
  | change (change : Log → Log)
  /-- The ticker reads the clock and begins to wait. -/
  | wait
  /-- The wait is over and the flag is looked at. -/
  | look
  /-- Attempts to append a record while the system behaves as `obstacles` say. -/
  | append (obstacles : Obstacles) (record : Bytes)
  /-- The ticker reads the clock and sets its next deadline. -/
  | schedule

namespace TimedTicker

/-- A ticker that has set its first deadline at the moment `start`. -/
def initial (ticker : Ticker) (start : Nanoseconds) (log : Log) : TimedTicker where
  ticker
  phase := .waiting
  now := start
  wakes := none
  stopping := false
  log
  rounds := []
  attempts := []

/-- The deadlines so far, the present one last. -/
def deadlines (state : TimedTicker) : List Nanoseconds :=
  state.rounds.map (·.deadline) ++ [state.ticker.deadline]

/-- Whether a wait that has begun may end. -/
def awakes (state : TimedTicker) : Bool :=
  match state.wakes with
  | none => false
  | some moment => state.stopping || moment ≤ state.now

def next (state : TimedTicker) : TimedEvent → Option TimedTicker
  | .pass time => some { state with now := state.now + time }
  | .trigger => some { state with stopping := true }
  | .change change => some { state with log := change state.log }
  | .wait =>
      match state.phase, state.wakes with
      | .waiting, none =>
          some { state with wakes := some (state.now + state.ticker.wait state.now) }
      | _, _ => none
  | .look =>
      if state.awakes then
        (state.phase.next (.look state.stopping)).map fun phase =>
          { state with phase, wakes := none }
      else none
  | .append obstacles record =>
      (state.phase.next .append).map fun phase =>
        { state with
          phase
          log := (state.log.append obstacles record).1
          attempts := state.attempts ++ [state.now] }
  | .schedule =>
      (state.phase.next .schedule).bind fun phase =>
        match state.ticker.advance? state.now with
        | some ticker =>
            some
              { state with
                ticker
                phase
                rounds := state.rounds ++ [⟨state.ticker.deadline, state.now⟩] }
        | none => (state.phase.next .panic).map fun phase => { state with phase }

/-- The ticker after all of `events`, if they are possible one after the other. -/
def run (state : TimedTicker) (events : List TimedEvent) : Option TimedTicker :=
  events.foldlM next state

end TimedTicker

end LineLog
