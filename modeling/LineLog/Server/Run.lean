import LineLog.Server.Basic
import LineLog.Server.State

/-!
# Runs of a server

A run is a sequence of steps, each of which one of the threads takes in the
state that the steps before it have left.  Joining is possible only once the
joined task has ended.
-/

namespace LineLog.Server

/-- The outcome of a step that starts the server. -/
def startUp (fault : Option Os.Error) (failure : Os.Error → ServerError)
    (following : ServerPhase) (server : Server) : Server :=
  { server with
    phase := match fault with
      | none => following
      | some cause => .discarding (failure cause) }

/-- Closes the log and tries to delete its file, unless it is closed already. -/
def removeLog (fault : Option Os.Error) (server : Server) : Server × Option StoreError :=
  match server.log.close with
  | (log, false) => ({ server with log }, none)
  | (log, true) =>
      ({ server with log, deletions := server.deletions ++ [fault] },
        fault.map (.remove server.path))

/-- The next step of the main thread outside the accept loop, if it is possible. -/
def proceed (fault : Option Os.Error) (server : Server) : Option Server :=
  match server.phase with
  | .binding => server.startUp fault (.bind server.settings.listen) .openingPoller
  | .openingPoller =>
      server.startUp fault .poll
        (if server.settings.daemon then .detaching else .blockingSignals)
  | .detaching => server.startUp fault .daemonize .blockingSignals
  | .blockingSignals => server.startUp fault .signals .startingListener
  | .startingListener =>
      server.startUp fault .spawn
        (if server.settings.timestampInterval.isSome then .startingTicker
          else .accepting .beforePoll)
  | .startingTicker =>
      let ticker := if fault.isNone then some .scheduling else none
      server.startUp fault .spawn (.accepting .beforePoll) |> fun server =>
        some { server with ticker }
  | .accepting _ => none
  | .triggering accepted => some { server with phase := .joiningTicker accepted, stopping := true }
  | .joiningTicker accepted =>
      match server.ticker with
      | none => some { server with phase := .joiningWorkers accepted ⟨0, false, none⟩ }
      | some (.ended ending) =>
          some
            { server with phase := .joiningWorkers accepted ⟨0, ending = .panicked, none⟩ }
      | some _ => none
  | .joiningWorkers accepted report =>
      match server.registered with
      | [] => some { server with phase := .removing accepted report }
      | client :: registered =>
          (server.clients.get client).ending.map fun ending =>
            { server with
              registered
              phase := .joiningWorkers accepted
                { report with
                  panickedWorkers :=
                    report.panickedWorkers + if ending = .panicked then 1 else 0 } }
  | .removing accepted report =>
      let (server, store) := server.removeLog fault
      some { server with phase := .ended (outcome accepted { report with store }) }
  | .discarding error =>
      some { (server.removeLog fault).1 with phase := .ended (.error error) }
  | .ended _ => none

/-- Whether the system can answer a step of the accept loop in this way: the flag
is what it is, and a connection is accepted once. -/
def permits (server : Server) : AcceptStep Nat → Bool
  | .look stopping => stopping = server.stopping
  | .accept (.connection client) => !(server.clients.get client).accepted
  | _ => true

/-- What a step of the accept loop does to the clients. -/
def register (phase : AcceptPhase Nat) (step : AcceptStep Nat) (server : Server) : Server :=
  match phase, step with
  | _, .accept (.connection number) =>
      let client := server.clients.get number
      { server with clients := server.clients.set number { client with accepted := true } }
  | .starting number, .start .started =>
      let client := server.clients.get number
      { server with
        clients := server.clients.set number { client with connection := some .initial }
        registered := server.registered ++ [number] }
  | _, _ => server

/-- A step of the accept loop, if it is possible. -/
def acceptStep (step : AcceptStep Nat) (server : Server) : Option Server :=
  match server.phase with
  | .accepting phase =>
      if server.permits step then
        (phase.next step).map fun following =>
          { server.register phase step with
            phase := match following with
              | .stopped accepted => .triggering accepted
              | following => .accepting following }
      else none
  | _ => none

/-- The records of a log after the records before it: the new one is entered if
it was appended. -/
def enter (author : Author) (record : Bytes) (result : Except AppendFailure Unit)
    (entries : List Entry) : List Entry :=
  match result with
  | .ok () => entries ++ [⟨author, record⟩]
  | .error _ => entries

/-- A step of the task that serves a client, if it is possible. -/
def serve (number : Nat) (step : ClientStep) (server : Server) : Option Server := do
  let client := server.clients.get number
  let (after, log) ← client.act server.path server.stopping step server.log
  let entries :=
    match step, client.message? with
    | .append obstacles, some message =>
        enter (.client number) message (server.log.append obstacles message).2 server.entries
    | _, _ => server.entries
  some { server with clients := server.clients.set number after, log, entries }

/-- A step of the ticker, if it is possible. -/
def tick (step : TickStep) (server : Server) : Option Server := do
  let phase ← server.ticker
  match step with
  | .schedule => (phase.next .schedule).map fun phase => { server with ticker := some phase }
  | .look =>
      (phase.next (.look server.stopping)).map fun phase => { server with ticker := some phase }
  | .append obstacles instant offset =>
      (phase.next .append).map fun phase =>
        let record := Timestamp.recordBytes instant offset
        let (log, result) := server.log.append obstacles record
        { server with
          ticker := some phase
          log
          entries := enter .ticker record result server.entries }
  | .panic => (phase.next .panic).map fun phase => { server with ticker := some phase }

def next (server : Server) : ServerEvent → Option Server
  | .arrive number bytes =>
      let client := server.clients.get number
      if client.finished then none
      else some { server with clients := server.clients.set number (client.arrive bytes) }
  | .finish number =>
      let client := server.clients.get number
      some { server with clients := server.clients.set number { client with finished := true } }
  | .trigger => some { server with stopping := true }
  | .main fault => server.proceed fault
  | .accept step => server.acceptStep step
  | .reap number =>
      match server.phase with
      | .accepting .sweeping =>
          if number ∈ server.registered && (server.clients.get number).ending.isSome then
            some { server with registered := server.registered.erase number }
          else none
      | _ => none
  | .serve number step => server.serve number step
  | .tick step => server.tick step

/-- The server after all of `events`, if they are possible one after the other. -/
def run (server : Server) (events : List ServerEvent) : Option Server :=
  events.foldlM next server

end LineLog.Server
