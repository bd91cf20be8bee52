import LineLog.Server.Run
import LineLog.Store.Basic

/-!
# A server on its host

On a host the log of a server is the memory of a store together with the file behind its
handle.  Others can reach the file, and the place that the path names, at any time, so the
server sees the log as it is on the host after every step.  What the deletion of the file
comes to is up to the host.
-/

namespace LineLog

/-- The log is removed next. -/
def ServerPhase.isRemoving : ServerPhase → Bool
  | .removing _ _ | .discarding _ => true
  | _ => false

structure HostedServer where
  server : Server
  store : Store
  host : Host

inductive HostedEvent where
  | server (event : ServerEvent)
  /-- Somebody else changes the host. -/
  | change (change : Host → Host)

namespace HostedServer

/-- A server with the log as it is on the host. -/
def ofServer (store : Store) (host : Host) (server : Server) : HostedServer where
  server := { server with log := store.log host }
  store
  host

/-- A server that is about to be started over a store. -/
def initial (settings : Settings) (store : Store) (host : Host) : HostedServer :=
  ofServer store host (.initial settings store.path (store.log host))

/-- What kept the file of a store that was removed from being deleted, if anything did. -/
def fault? : Except StoreError Unit → Option Os.Error
  | .error (.remove _ cause) => some cause
  | _ => none

/-- Where the process is after a step of the main thread: detaching leads to the root. -/
def relocate (fault : Option Os.Error) (phase : ServerPhase) (host : Host) : Host :=
  match phase, fault with
  | .detaching, none => { host with current := [] }
  | _, _ => host

/-- The next step of the main thread outside the accept loop, if it is possible. -/
def proceed (fault : Option Os.Error) (hosted : HostedServer) : Option HostedServer :=
  if hosted.server.phase.isRemoving then
    let ((host, store), removed) := hosted.store.remove hosted.host
    (hosted.server.proceed (fault? removed)).map (ofServer store host)
  else
    (hosted.server.proceed fault).map
      (ofServer hosted.store (relocate fault hosted.server.phase hosted.host))

/-- Brings the log of a server to the store and its file. -/
def put (hosted : HostedServer) (server : Server) : HostedServer :=
  match hosted.store.handle with
  | none => ofServer hosted.store hosted.host server
  | some handle =>
      let (host, store) := hosted.store.putLog handle server.log hosted.host
      ofServer store host server

def next (hosted : HostedServer) : HostedEvent → Option HostedServer
  | .change change => some (ofServer hosted.store (change hosted.host) hosted.server)
  | .server (.main fault) => hosted.proceed fault
  | .server event => (hosted.server.next event).map hosted.put

/-- The server and its host after all of `events`, if they are possible one after the
other. -/
def run (hosted : HostedServer) (events : List HostedEvent) : Option HostedServer :=
  events.foldlM next hosted

end HostedServer

end LineLog
