import LineLog.Connection.Basic
import LineLog.Notice.Level
import LineLog.Number.Shortest
import LineLog.Server.Error
import LineLog.Settings.Basic
import LineLog.Signal
import LineLog.Text.Quoted

/-!
# Notices

The service says what it does.  A notice is a fact; its level, the place that it
comes from and its text follow from it.  The text is a phrase with the details
behind it, each as a name, an equals sign and a value.
-/

namespace LineLog

inductive Notice where
  | starting (settings : Settings)
  | storeCreated (path : Path)
  | storeNotCreated (error : StoreError)
  /-- The listening socket has been handed to the poller. -/
  | socketRegistered
  | listening (address : SocketAddress) (backlog : Int)
  | outputDiscarded
  | detaching
  | ready (address : SocketAddress)
  | startupFailed (error : ServerError)
  | tickerStarted (interval : Duration)
  | tickerStopped
  | timestampAppended (record : String)
  | timestampNotAppended (error : StoreError)
  | tickerPanicked
  | recordAppended (size total : Nat)
  | notRolledBack (error : Os.Error)
  | pollFailed (error : Os.Error)
  | accepted (peer : SocketAddress)
  | notAccepted (error : Os.Error)
  | workerNotStarted (peer : SocketAddress) (error : Os.Error)
  | workersReaped (reaped live : Nat)
  | workerPanicked (worker : Worker)
  | connectionEnded (peer : SocketAddress) (result : Except ConnectionError Outcome)
  | connectionClosed (peer : SocketAddress)
  | signalCaught (signal : Signal)
  | alreadyStopping
  | acceptingStopped (live : Nat)
  | awaitingWorkers (count : Nat)
  | removingStore (size : Nat)
  | storeRemoved (path : Path)
  /-- The store could not be removed, after the start failed or at the end. -/
  | storeNotRemoved (error : StoreError) (afterStart : Bool)
  | drained (workers : Nat)
  | drainedUncleanly (report : DrainReport)
  | exiting (error : ServerError)

namespace Notice

/-- The address of a peer without its port. -/
def hostText : SocketAddress → String
  | .v4 address _ => address.text
  | .v6 address _ _ => address.text

/-- A value that may be missing, as details show it. -/
def optional (value : Option String) : String :=
  match value with
  | some text => s!"Some({text})"
  | none => "None"

def level : Notice → Level
  | storeNotCreated _ | startupFailed _ | tickerPanicked | pollFailed _ | workerPanicked _
  | storeNotRemoved _ _ | exiting _ => .error
  | outputDiscarded | timestampNotAppended _ | notRolledBack _ | notAccepted _
  | workerNotStarted _ _ | connectionEnded _ (.error _) | drainedUncleanly _ => .warn
  | timestampAppended _ | recordAppended _ _ | workersReaped _ _
  | connectionEnded _ (.ok _) => .debug
  | socketRegistered => .trace
  | _ => .info

/-- The part of the service that a notice comes from. -/
def origin : Notice → String
  | socketRegistered => "mio::poll"
  | starting _ | storeNotCreated _ | outputDiscarded | detaching | ready _ | startupFailed _
  | storeNotRemoved _ false | exiting _ => "aesd_socket"
  | storeCreated _ | storeRemoved _ | recordAppended _ _ | notRolledBack _ =>
      "aesd_socket::storage"
  | listening _ _ | pollFailed _ | accepted _ | notAccepted _ | workerNotStarted _ _
  | workersReaped _ _ | acceptingStopped _ => "aesd_socket::runtime::acceptor"
  | workerPanicked _ => "aesd_socket::runtime::registry"
  | connectionEnded _ _ | connectionClosed _ => "aesd_socket::runtime::worker"
  | tickerStarted _ | tickerStopped | timestampAppended _ | timestampNotAppended _ =>
      "aesd_socket::runtime::ticker"
  | signalCaught _ | alreadyStopping => "aesd_socket::runtime::signals"
  | tickerPanicked | awaitingWorkers _ | removingStore _ | storeNotRemoved _ true | drained _
  | drainedUncleanly _ => "aesd_socket::runtime::shutdown"

/-- The phrase of a notice. -/
def phrase : Notice → String
  | starting _ => "Starting aesd-socket server"
  | storeCreated _ => "Initializing store"
  | storeNotCreated _ => "Failed to create store"
  | socketRegistered =>
      "registering event source with poller: token=Token(0), interests=READABLE"
  | listening _ _ => "Listening"
  | outputDiscarded => "No log file configured; log output is discarded once detached"
  | detaching => "Detaching from terminal"
  | ready _ => "Server ready"
  | startupFailed _ => "Startup failed"
  | tickerStarted _ => "Timestamp ticker started"
  | tickerStopped => "Timestamp ticker stopped"
  | timestampAppended _ => "Appended timestamp"
  | timestampNotAppended _ => "Failed to append timestamp"
  | tickerPanicked => "Timestamp ticker panicked"
  | recordAppended _ _ => "Appended record"
  | notRolledBack _ => "Failed to roll back partial append"
  | pollFailed _ => "Poll failed"
  | accepted peer => s!"Accepted connection from {hostText peer}"
  | notAccepted _ => "Failed to accept connection"
  | workerNotStarted _ _ => "Failed to start worker"
  | workersReaped _ _ => "Reaped workers"
  | workerPanicked _ => "Worker panicked"
  | connectionEnded _ (.ok (.replied _ _)) => "Sent store contents"
  | connectionEnded _ (.ok (.disconnected _)) => "Peer closed before end of message"
  | connectionEnded _ (.ok (.abandoned _)) => "Abandoned connection for shutdown"
  | connectionEnded _ (.error _) => "Connection failed"
  | connectionClosed peer => s!"Closed connection from {hostText peer}"
  | signalCaught _ => "Caught signal, exiting"
  | alreadyStopping => "Shutdown already in progress"
  | acceptingStopped _ => "Stopped accepting connections"
  | awaitingWorkers _ => "Waiting for workers to finish"
  | removingStore _ => "Removing store"
  | storeRemoved _ => "Removed store"
  | storeNotRemoved _ _ => "Failed to remove store"
  | drained _ => "Shutdown complete"
  | drainedUncleanly _ => "Shutdown completed with errors"
  | exiting _ => "Server exited with errors"

/-- The details of a notice, each with its name. -/
def details : Notice → List (String × String)
  | starting settings =>
      [("listen", settings.listen.text),
        ("data_file", settings.dataFile.display),
        ("timestamp_interval",
          optional (settings.timestampInterval.map fun interval => s!"{interval.seconds}s")),
        ("daemon", toString settings.daemon),
        ("log_file", optional (settings.logFile.map Text.quotedBytes))]
  | storeCreated path | storeRemoved path => [("path", path.display)]
  | storeNotCreated error | timestampNotAppended error | storeNotRemoved error _ =>
      [("error", error.message)]
  | listening address backlog => [("addr", address.text), ("backlog", toString backlog)]
  | ready address => [("addr", address.text)]
  | startupFailed error | exiting error => [("error", error.message)]
  | tickerStarted interval =>
      [("interval_secs", (Binary64.ofFraction false interval.toNanos 1000000000).compactText)]
  | timestampAppended record => [("record", Text.quoted record)]
  | recordAppended size total => [("bytes", toString size), ("total", toString total)]
  | notRolledBack error | pollFailed error | notAccepted error => [("error", error.message)]
  | accepted peer | connectionClosed peer => [("peer", peer.text)]
  | workerNotStarted peer error => [("peer", peer.text), ("error", error.message)]
  | workersReaped reaped live => [("reaped", toString reaped), ("live", toString live)]
  | workerPanicked worker => [("conn_id", toString worker.id), ("peer", worker.peer.text)]
  | connectionEnded peer result =>
      ("peer", peer.text) ::
        match result with
        | .ok (.replied message reply) =>
            [("message", toString message), ("reply", toString reply)]
        | .ok (.disconnected discarded) | .ok (.abandoned discarded) =>
            [("discarded", toString discarded)]
        | .error cause => [("error", cause.message)]
  | signalCaught signal => [("signal", Text.quoted signal.name)]
  | acceptingStopped live => [("live", toString live)]
  | awaitingWorkers count | drained count => [("workers", toString count)]
  | removingStore size => [("bytes", toString size)]
  | drainedUncleanly report => [("error", report.message)]
  | socketRegistered | outputDiscarded | detaching | tickerStopped | tickerPanicked
  | alreadyStopping => []

def text (notice : Notice) : String :=
  notice.details.foldl (fun text (name, value) => s!"{text} {name}={value}") notice.phrase

/-- The names of the fields of a notice.  The phrase is a field, too. -/
def fieldNames (notice : Notice) : List String :=
  "message" ::
    match notice with
    | socketRegistered => ["log.target", "log.module_path", "log.file", "log.line"]
    | notice => notice.details.map (·.1)

end Notice

end LineLog
