import LineLog.Log.Call
import LineLog.Threads

/-!
# The log behind a lock

Any number of threads call one log.  A call takes the lock, works in small steps
while the other threads go on, and releases the lock with its reply.  A thread
that panics while it holds the lock releases it too, in the middle of its call.  That
poisons the lock, but whoever takes it next discards the warning and finds the log as
the panic has left it; so the state does not say whether the lock is poisoned.

Every call that has ended is kept with the moments of its beginning and its end,
so that the calls can be compared with calls that are made one at a time.  A
moment is the number of steps before it.
-/

namespace LineLog

/-- How far the call has come that holds the lock. -/
inductive CallProgress where
  /-- Nothing has been done yet. -/
  | entered
  /-- `rest` has still to be written to the file. -/
  | writing (rest : Bytes)
  /-- A write failed; the file has to be cut back. -/
  | cutting (cause : Os.Error)
  /-- The file has its old length; the write position has to follow. -/
  | seeking (cause : Os.Error)
  /-- The log is closed; its file has to be deleted. -/
  | deleting
  /-- The lock is about to be released. -/
  | answering (reply : LogReply)
  deriving DecidableEq, Repr

/-- What a thread is doing. -/
inductive CallPhase where
  | idle
  | waiting (call : LogCall) (since : Nat)
  | holding (call : LogCall) (since : Nat) (progress : CallProgress)
  deriving DecidableEq, Repr

/-- A call that has ended. -/
structure CallRecord where
  thread : Nat
  call : LogCall
  reply : LogReply
  began : Nat
  ended : Nat
  deriving DecidableEq, Repr

structure SharedLog where
  log : Log
  /-- The thread that holds the lock. -/
  holder : Option Nat
  threads : Threads CallPhase
  moment : Nat
  /-- The calls that have ended, the earliest first. -/
  calls : List CallRecord

/-- What a thread does next. -/
inductive CallStep where
  | call (call : LogCall)
  | acquire
  /-- Does what needs no system call. -/
  | enter
  | write (answer : WriteAnswer)
  /-- Sets the length of the file, unless the system refuses. -/
  | cut (fault : Option Os.Error)
  /-- Moves the write position, unless the system refuses. -/
  | seek (fault : Option Os.Error)
  /-- Extends the memory by the record. -/
  | extend
  /-- Deletes the file, unless the system refuses. -/
  | delete (fault : Option Os.Error)
  | release
  | panic
  deriving DecidableEq, Repr

namespace SharedLog

/-- A new log that nobody has called yet. -/
def initial : SharedLog where
  log := .empty
  holder := none
  threads := .all .idle
  moment := 0
  calls := []

/-- What a call does as soon as it holds the lock. -/
def enter (call : LogCall) (log : Log) : Log × CallProgress :=
  match call with
  | .append record =>
      match log.file with
      | none => (log, .answering .closed)
      | some _ => (log, .writing record)
  | .snapshot => (log, .answering (.bytes log.snapshot))
  | .length => (log, .answering (.count log.length))
  | .remove =>
      match log.close with
      | (log, true) => (log, .deleting)
      | (log, false) => (log, .answering (.removed none))

/-- A step of the call that holds the lock, if it is possible. -/
def work (call : LogCall) (progress : CallProgress) (step : CallStep) (log : Log) :
    Option (Log × CallProgress) :=
  match progress, step, log.file with
  | .entered, .enter, _ => some (enter call log)
  | .writing [], .extend, _ =>
      match call with
      | .append record => some ({ log with bytes := log.bytes ++ record }, .answering .appended)
      | _ => none
  | .writing (_ :: _), .write .interrupted, _ => some (log, progress)
  | .writing (_ :: _), .write (.refused cause), _ => some (log, .cutting cause)
  | .writing (_ :: _), .write (.accepted 0), _ => some (log, .cutting Os.Error.writeZero)
  | .writing (byte :: rest), .write (.accepted count), some file =>
      let rest := byte :: rest
      some ({ log with file := some (file.write (rest.take count)) }, .writing (rest.drop count))
  | .cutting cause, .cut none, some file =>
      some ({ log with file := some (file.setLength log.bytes.length) }, .seeking cause)
  | .cutting cause, .cut (some _), _ => some (log, .answering (.refused cause))
  | .seeking cause, .seek none, some file =>
      some ({ log with file := some (file.seek log.bytes.length) }, .answering (.refused cause))
  | .seeking cause, .seek (some _), _ => some (log, .answering (.refused cause))
  | .deleting, .delete fault, _ => some (log, .answering (.removed fault))
  | _, _, _ => none

/-- The thread gives the lock back, and its call ends with `reply`. -/
def answer (thread : Nat) (call : LogCall) (since : Nat) (reply : LogReply)
    (shared : SharedLog) : SharedLog :=
  { shared with
    holder := none
    threads := shared.threads.set thread .idle
    calls := shared.calls ++ [⟨thread, call, reply, since, shared.moment⟩] }

/-- A step of one thread, if it is possible; the moment passes with it. -/
def step (thread : Nat) (step : CallStep) (shared : SharedLog) : Option SharedLog :=
  match shared.threads.get thread, step with
  | .idle, .call call =>
      some { shared with threads := shared.threads.set thread (.waiting call shared.moment) }
  | .waiting call since, .acquire =>
      if shared.holder = none then
        some
          { shared with
            holder := some thread
            threads := shared.threads.set thread (.holding call since .entered) }
      else none
  | .holding call since (.answering reply), .release =>
      some (shared.answer thread call since reply)
  | .holding call since _, .panic =>
      if call = .remove then none
      else some (shared.answer thread call since .panicked)
  | .holding call since progress, step =>
      (work call progress step shared.log).map fun (log, progress) =>
        { shared with
          log
          threads := shared.threads.set thread (.holding call since progress) }
  | _, _ => none

def next (shared : SharedLog) (event : Nat × CallStep) : Option SharedLog :=
  (shared.step event.1 event.2).map fun after => { after with moment := shared.moment + 1 }

/-- The log after all of `events`, if they are possible one after the other. -/
def run (shared : SharedLog) (events : List (Nat × CallStep)) : Option SharedLog :=
  events.foldlM next shared

end SharedLog

/-- Calls that are made one at a time, in the order of the list, and what they
make of a log. -/
inductive CallRecord.Sequential : List CallRecord → LogView → LogView → Prop where
  | nil (view : LogView) : Sequential [] view view
  | cons {entry : CallRecord} {others : List CallRecord} {before middle after : LogView} :
      entry.call.Yields entry.reply before middle → Sequential others middle after →
        Sequential (entry :: others) before after

/-- Whether an order of calls respects real time: none comes before a call that
had ended when it began. -/
def CallRecord.InTime (order : List CallRecord) : Prop :=
  order.Pairwise fun first second => ¬ second.ended < first.began

end LineLog
