import LineLog.Host
import LineLog.Log
import LineLog.Store.Error

/-!
# The store: a shared log at a path

A store keeps its log in memory and a handle on its backing file, which lives
in the file tree of the host, where others can reach it too.  Creating a store
empties the file and fixes the absolute path without links, so that the file
that was opened is the one that is deleted, whatever directory is current then.
Removing closes the store for good and tries to delete the file exactly once.  The
store keeps which files it has asked the system to delete, for the sake of what is said
about its life; no call depends on that.
-/

namespace LineLog

/-- The backing file as a store knows it. -/
structure BackingFile where
  /-- Its resolved path. -/
  path : Path
  /-- The paths that the system was asked to delete, the earliest first. -/
  deletions : List Path

structure Store extends BackingFile where
  bytes : Bytes
  /-- The open backing file, until the store is removed. -/
  handle : Option Handle

namespace Store

def create (path : Path) (host : Host) : Except StoreError (Host × Store) :=
  match host.openForWriting .truncate path with
  | .error cause => .error (.create path cause)
  | .ok (host, handle) =>
      let resolved :=
        match host.tree.canonicalize host.current path with
        | .ok resolved => resolved
        | .error _ => path
      .ok (host, { path := resolved, bytes := [], handle := some handle, deletions := [] })

/-- The store seen as a log over the present contents of its file. -/
def log (store : Store) (host : Host) : Log where
  bytes := store.bytes
  file := store.handle.map host.fileOf

/-- What the host puts in the way of appending `length` bytes through `handle`. -/
def obstacles (store : Store) (host : Host) (handle : Handle) (length : Nat) : Obstacles where
  answers := host.writeAnswers handle length
  truncate := host.truncateFaults handle store.bytes.length

/-- Puts a log back behind a handle that is still open. -/
def putLog (store : Store) (handle : Handle) (log : Log) (host : Host) : Host × Store :=
  match log.file with
  | none => (host, { store with bytes := log.bytes })
  | some file =>
      let (host, handle) := host.putFile handle file
      (host, { store with bytes := log.bytes, handle := some handle })

/-- Appends a record while the system behaves as `obstacles` say. -/
def appendAgainst (obstacles : Obstacles) (record : Bytes) (store : Store) (host : Host) :
    (Host × Store) × Except AppendFailure Unit :=
  match store.handle with
  | none => ((host, store), .error .closed)
  | some handle =>
      let (log, result) := (store.log host).append obstacles record
      (store.putLog handle log host, result)

/-- Appends a record on the host as it is. -/
def append (record : Bytes) (store : Store) (host : Host) :
    (Host × Store) × Except StoreError Unit :=
  let obstacles :=
    match store.handle with
    | none => .none
    | some handle => store.obstacles host handle record.length
  let (state, result) := store.appendAgainst obstacles record host
  (state, result.mapError (.ofAppend store.path))

def snapshot (store : Store) : Bytes :=
  store.bytes

def length (store : Store) : Nat :=
  store.bytes.length

/-- An open store once its file has been tried to be deleted. -/
def shut (store : Store) : Store :=
  { store with bytes := [], handle := none, deletions := store.deletions ++ [store.path] }

def remove (store : Store) (host : Host) : (Host × Store) × Except StoreError Unit :=
  match store.handle with
  | none => ((host, store), .ok ())
  | some handle =>
      let host := host.close handle
      match host.deleteFile store.path with
      | .ok host => ((host, store.shut), .ok ())
      | .error cause => ((host, store.shut), .error (.remove store.path cause))

/-- A write that stops part way, followed by cutting the file to `length`; the
records in memory stay as they are. -/
def disturb (bytes : Bytes) (length : Nat) (store : Store) (host : Host) :
    (Host × Store) × Except AppendFailure Unit :=
  match store.handle with
  | none => ((host, store), .error .closed)
  | some handle =>
      let (file, written) :=
        (host.fileOf handle).writeAll (host.writeAnswers handle bytes.length) bytes
      let (file, result) : OpenFile × Except Os.Error Unit :=
        match written with
        | .error cause => (file, .error cause)
        | .ok () => file.truncateTo (host.truncateFaults handle length file) length
      let (host, handle) := host.putFile handle file
      ((host, { store with handle := some handle }), result.mapError (.write · none))

end Store

end LineLog
