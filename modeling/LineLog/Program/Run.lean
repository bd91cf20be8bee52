import LineLog.Drain
import LineLog.Program.Journal
import LineLog.Server.Basic
import LineLog.Settings.Resolve

/-!
# A run of the program

The program reads its settings, opens the log file, creates the store, starts
the server and serves until a termination signal arrives; then it drains the
service.  A signal that has arrived waits until the program takes it, and does not
wait twice.  Here nobody connects while the program serves, and no record falls
due.

It ends with status 0 after a clean shutdown, with status 1 after a failure, with
status 101 if a directive for the notices breaks a character, and with the status
of the command line if that does not lead to a run.  The store
is removed whenever it has been created.  A detached program leaves the process
that was started, which ends with status 0.
-/

namespace LineLog

/-- How far the program is. -/
inductive ProgramPhase where
  | ended (status : Nat)
  /-- The program serves; `waiting` are the signals that it has not taken yet. -/
  | serving (service : Service) (waiting : List Signal)

structure Program where
  host : Host
  journal : Journal
  phase : ProgramPhase

namespace Program

/-- The status of a program that cannot go on. -/
def unableStatus : Nat := 101

def say (notice : Notice) (program : Program) : Program :=
  let (journal, host) := program.journal.say notice program.host
  { program with journal, host }

def sayIf (condition : Bool) (notice : Notice) (program : Program) : Program :=
  if condition then program.say notice else program

/-- Ends the program with the reason for its failure. -/
def fail (reason : String) (program : Program) : Program :=
  { program with
    journal := program.journal.complain s!"Error: {reason}"
    phase := .ended 1 }

/-- Says what became of removing the store. -/
def sayRemoved (path : Path) (error : Option StoreError) (afterStart : Bool) (program : Program) :
    Program :=
  match error with
  | none => program.say (.storeRemoved path)
  | some error => program.say (.storeNotRemoved error afterStart)

/-- Gives up after the store has been created. -/
def discard (error : ServerError) (store : Store) (program : Program) : Program :=
  let program := program.say (.startupFailed error)
  let ((host, _), removed) := store.remove program.host
  let error? : Option StoreError :=
    match removed with
    | .ok () => none
    | .error error => some error
  ({ program with host }.sayRemoved store.path error? false).fail error.message

/-- Detaches from the terminal: the root directory becomes the current one. -/
def detach (settings : Settings) (program : Program) : Program :=
  let program := program.sayIf settings.logFile.isNone .outputDiscarded |>.say .detaching
  { program with
    host := { program.host with current := [] }
    journal := { program.journal with detached := true } }

/-- Starts the server over a store. -/
def listen (now : Nanoseconds) (settings : Settings) (store : Store) (program : Program) :
    Program :=
  match Server.bind settings.listen program.host with
  | .error error => program.discard error store
  | .ok (host, _) =>
      let address := Network.assigned settings.listen
      let program := { program with host }
        |>.say .socketRegistered
        |>.say (.listening address settings.backlog)
      let program := if settings.daemon then program.detach settings else program
      let program := program.say (.ready address)
      let ticker := settings.timestampInterval.map fun interval =>
        Server.tickerEnding interval.toNanos now
      let program :=
        match settings.timestampInterval with
        | none => program
        | some interval => program.say (.tickerStarted interval)
      let program :=
        if ticker = some .panicked then
          { program with
            journal := program.journal.complain "The deadline of the ticker is out of range" }
        else program
      { program with
        phase := .serving { shutdown := .initial, ticker, registry := .empty, store } [] }

/-- Runs the service with the settings in force. -/
def serve (now : Nanoseconds) (settings : Settings) (program : Program) : Program :=
  let program := program.say (.starting settings)
  match Store.create settings.dataFile program.host with
  | .error error => (program.say (.storeNotCreated error)).fail error.message
  | .ok (host, store) =>
      ({ program with host }.say (.storeCreated store.path)).listen now settings store

/-- Lets the notices begin: from now on those that the filter lets pass go to the
log file, if there is one. -/
def openJournal (filter : Filter) (styled : Bool) (settings : Settings) (program : Program) :
    Except SettingsError Program :=
  let journal : Journal := { program.journal with filter, styled }
  match settings.openLogFile program.host with
  | .error error => .error error
  | .ok none => .ok { program with journal }
  | .ok (some (host, handle)) =>
      .ok { program with host, journal := { journal with log := some handle } }

/-- Ends a program that cannot go on. -/
def giveUp (reason : String) (program : Program) : Program :=
  { program with
    journal := program.journal.complain reason
    phase := .ended unableStatus }

/-- Begins the notices and runs the service with the settings in force. -/
def begin (environment : Environment) (now : Nanoseconds) (settings : Settings)
    (program : Program) : Program :=
  match environment.filter settings.logLevel with
  | .error error => program.giveUp error.message
  | .ok (filter, ignored) =>
      let program := { program with journal := program.journal.complainOf ignored }
      match program.openJournal filter environment.styled settings with
      | .error error => program.fail error.message
      | .ok program => program.serve now settings

/-- Starts the program on the words of a command line, at a moment of the
calendar and a reading of the clock. -/
def start (environment : Environment) (words : List Bytes) (moment : Instant)
    (now : Nanoseconds) (host : Host) : Program :=
  let program : Program := { host, journal := .silent moment, phase := .ended 0 }
  match CommandLine.parse words with
  | .error stop =>
      { program with
        journal :=
          if stop.exitCode = 0 then program.journal.print stop.message
          else program.journal.complain stop.message
        phase := .ended stop.exitCode }
  | .ok arguments =>
      match Settings.resolve arguments host with
      | .error error => program.fail error.message
      | .ok settings => program.begin environment now settings

/-- Drains the service and ends the program. -/
def drain (service : Service) (program : Program) : Program :=
  let program := program.say (.acceptingStopped service.registry.length)
  let program := program.sayIf (service.ticker = some .returned) .tickerStopped
  let program := program.sayIf (service.ticker = some .panicked) .tickerPanicked
  let program := program.say (.removingStore service.store.length)
  let ((_, host), report) := service.drain (fun _ => .returned) program.host
  let program := { program with host }.sayRemoved service.store.path report.store true
  if report.isClean then
    { program.say (.drained service.registry.length) with phase := .ended 0 }
  else
    let error : ServerError := .shutdown report
    (program.say (.drainedUncleanly report) |>.say (.exiting error)).fail error.message

/-- A termination signal arrives. -/
def receive (signal : Signal) (program : Program) : Program :=
  match program.phase with
  | .ended _ => program
  | .serving service waiting =>
      { program with
        phase := .serving service (if signal ∈ waiting then waiting else waiting ++ [signal]) }

/-- Takes the signals that have arrived.  The first one brings the program to its
end, and the others find it on its way. -/
def settle (program : Program) : Program :=
  match program.phase with
  | .ended _ | .serving _ [] => program
  | .serving service (signal :: others) =>
      let program := program.say (.signalCaught signal)
      let program := others.foldl (fun program signal =>
        program.say (.signalCaught signal) |>.say .alreadyStopping) program
      program.drain service

/-- The status of the process that does the work, once it has ended. -/
def status? (program : Program) : Option Nat :=
  match program.phase with
  | .ended status => some status
  | .serving _ _ => none

/-- The status of the process that was started, once it has ended. -/
def startedStatus? (program : Program) : Option Nat :=
  if program.journal.detached then some 0 else program.status?

/-- The status of the process that was left after detaching, once it has ended. -/
def detachedStatus? (program : Program) : Option Nat :=
  if program.journal.detached then program.status? else none

end Program

end LineLog
