import LineLog.Descriptors
import LineLog.FileTree.Resolve
import LineLog.Network
import LineLog.OpenFile

/-!
# The host of a process

What the operating system keeps for the process: the file tree, the current
directory, a limit on the size of files, the descriptors, and the network.  A
write reaches at most the size limit, or the largest size that the volume gives
to a file: it is cut short there and the next one is refused.  Opening takes a
descriptor, and the check for one comes after the check of the path itself and
before the tree is walked.  Making, moving and deleting concern a place in a
directory and do not follow a link there.
-/

namespace LineLog

structure Host where
  tree : FileTree
  current : Location
  /-- The largest size of a file, if there is one. -/
  sizeLimit : Option Nat
  descriptors : Descriptors
  network : Network

/-- What a descriptor refers to. -/
inductive Opened where
  | file (id : Nat)
  | device (kind : Device)
  deriving DecidableEq, Repr

/-- An open file of the process: its descriptor and where it writes next. -/
structure Handle where
  number : Nat
  opened : Opened
  position : Nat
  deriving DecidableEq, Repr

/-- How a file is opened for writing: emptied, or positioned at its end. -/
inductive WriteMode where
  | truncate
  | append
  deriving DecidableEq, Repr

namespace Host

/-- Takes a descriptor and returns its number. -/
def takeDescriptor (host : Host) : Except Os.Error (Nat × Host) :=
  match host.descriptors.take? with
  | none => .error Os.Error.tooManyOpenFiles
  | some (number, descriptors) => .ok (number, { host with descriptors })

def releaseDescriptor (number : Nat) (host : Host) : Host :=
  { host with descriptors := host.descriptors.release number }

def close (handle : Handle) (host : Host) : Host :=
  host.releaseDescriptor handle.number

/-- Whether entries can be made in a directory: it has not been deleted. -/
def canHold (directory : Location) (host : Host) : Bool :=
  host.tree.node? directory = some .directory

/-- Opens a file for writing and creates it if the path leads nowhere. -/
def openForWriting (mode : WriteMode) (path : Path) (host : Host) :
    Except Os.Error (Host × Handle) := do
  FileTree.checkPath path
  let (number, host) ← host.takeDescriptor
  match ← host.tree.resolve host.current ⟨true, true⟩ path with
  | .missing directory name =>
      if host.canHold directory then
        let (tree, id) := host.tree.createFile (directory ++ [name])
        .ok ({ host with tree }, ⟨number, .file id, 0⟩)
      else .error Os.Error.noSuchFile
  | .found _ .directory => .error Os.Error.isDirectory
  | .found _ (.link _) => .error Os.Error.tooManyLinks
  | .found _ (.device kind) => .ok (host, ⟨number, .device kind, 0⟩)
  | .found _ (.file id) =>
      match mode with
      | .truncate =>
          .ok ({ host with tree := host.tree.setContents id .empty }, ⟨number, .file id, 0⟩)
      | .append => .ok (host, ⟨number, .file id, (host.tree.fileContents id).length⟩)

/-- The file behind a handle; a device has no contents. -/
def fileOf (host : Host) (handle : Handle) : OpenFile :=
  match handle.opened with
  | .file id => ⟨host.tree.fileContents id, handle.position⟩
  | .device _ => ⟨.empty, handle.position⟩

/-- Puts a changed file back behind its handle. -/
def putFile (handle : Handle) (file : OpenFile) (host : Host) : Host × Handle :=
  match handle.opened with
  | .file id =>
      ({ host with tree := host.tree.setContents id file.contents },
        { handle with position := file.position })
  | .device _ => (host, handle)

/-- The largest size that the volume gives to a file. -/
def largestFile : Nat := (Nat.pow 2 32 - 1) * 4096

/-- The size that no file grows beyond. -/
def sizeBound (host : Host) : Nat :=
  min (host.sizeLimit.getD largestFile) largestFile

/-- The answers to writing `length` bytes. -/
def writeAnswers (host : Host) (handle : Handle) (length : Nat) : List WriteAnswer :=
  match handle.opened with
  | .device .full => [.refused Os.Error.noSpace]
  | .device _ => []
  | .file _ =>
      let limit := host.sizeBound
      if handle.position + length ≤ limit then []
      else if limit ≤ handle.position then [.refused Os.Error.fileTooLarge]
      else [.accepted (limit - handle.position), .refused Os.Error.fileTooLarge]

/-- The first length that cannot be asked for. -/
def lengthBound : Nat := Nat.pow 2 63

/-- What keeps the file behind a handle from being set to `length`: only growth
is subject to the size limit, and a device has no length to set. -/
def truncateFaults (host : Host) (handle : Handle) (length : Nat) (file : OpenFile) :
    OpenFile.TruncateFaults where
  setLength :=
    if lengthBound ≤ length then some Os.Error.numberTooLarge
    else
      match handle.opened with
      | .device _ => some Os.Error.invalidArgument
      | .file _ =>
          if file.contents.length < length && host.sizeBound < length then
            some Os.Error.fileTooLarge
          else none
  seek := none

/-- Writes through a handle and says how that ended. -/
def writeThrough (handle : Handle) (bytes : Bytes) (host : Host) :
    Host × Handle × Except Os.Error Unit :=
  let (file, result) :=
    (host.fileOf handle).writeAll (host.writeAnswers handle bytes.length) bytes
  let (host, handle) := host.putFile handle file
  (host, handle, result)

/-- Writes at the end of the file, wherever the handle is. -/
def appendThrough (handle : Handle) (bytes : Bytes) (host : Host) :
    Host × Except Os.Error Unit :=
  let position := (host.fileOf handle).contents.length
  let (host, _, result) := host.writeThrough { handle with position } bytes
  (host, result)

/-- Replaces the whole contents of a file. -/
def writeFile (path : Path) (bytes : Bytes) (host : Host) : Host × Except Os.Error Unit :=
  match host.openForWriting .truncate path with
  | .error error => (host, .error error)
  | .ok (opened, handle) =>
      let (written, handle, result) := opened.writeThrough handle bytes
      (written.close handle, result)

/-- The whole contents of a file. -/
def contentsAt (path : Path) (host : Host) : Except Os.Error Bytes := do
  FileTree.checkPath path
  let (_, host) ← host.takeDescriptor
  match ← host.tree.find host.current path with
  | (_, .file id) => .ok (host.tree.fileContents id).toBytes
  | (_, .device _) => .ok []
  | (_, _) => .error Os.Error.isDirectory

/-- The size that the system reports for a directory. -/
def directorySize : Nat := 4096

def sizeOf (path : Path) (host : Host) : Except Os.Error Nat := do
  match ← host.tree.find host.current path with
  | (_, .file id) => .ok (host.tree.fileContents id).length
  | (_, .directory) => .ok directorySize
  | (_, _) => .ok 0

/-- What is at the place that a path names. -/
def entryAt (path : Path) (host : Host) :
    Except Os.Error (Option (FileTree.Place × Option Node)) := do
  let place ← host.tree.place host.current path
  .ok (place.map fun place => (place, host.tree.node? place.location))

/-- Deletes the directory entry that a path names.  A link at the end of the
path is deleted itself and a directory is refused. -/
def deleteFile (path : Path) (host : Host) : Except Os.Error Host := do
  match ← host.entryAt path with
  | none | some (_, some .directory) => .error Os.Error.isDirectory
  | some (_, none) => .error Os.Error.noSuchFile
  | some (place, some _) =>
      if place.asDirectory then .error Os.Error.notDirectory
      else .ok { host with tree := host.tree.erase place.location }

def makeDirectory (path : Path) (host : Host) : Except Os.Error Host := do
  match ← host.entryAt path with
  | none | some (_, some _) => .error Os.Error.fileExists
  | some (place, none) =>
      if host.canHold place.directory then
        .ok { host with tree := host.tree.insert place.location .directory }
      else .error Os.Error.noSuchFile

/-- Makes every directory of the path that does not exist yet. -/
def makeDirectories (path : Path) (host : Host) : Host :=
  let route := Path.route path
  (List.range route.names.length).foldl (fun host depth =>
    let path := Path.ofNames (route.names.take (depth + 1))
    match host.makeDirectory (if route.absolute then path else path.drop 1) with
    | .ok host => host
    | .error _ => host) host

def makeLink (path target : Path) (host : Host) : Except Os.Error Host := do
  match ← host.entryAt path with
  | none | some (_, some _) => .error Os.Error.fileExists
  | some (place, none) =>
      if host.canHold place.directory && !place.asDirectory then
        .ok { host with tree := host.tree.insert place.location (.link target) }
      else .error Os.Error.noSuchFile

/-- The names in a directory. -/
def namesIn (directory : Location) (host : Host) : List Name :=
  host.tree.nodes.filterMap fun (location, _) =>
    if location.dropLast = directory then location.getLast? else none

def changeDirectory (path : Path) (host : Host) : Except Os.Error Host := do
  match ← host.tree.find host.current path with
  | (location, .directory) => .ok { host with current := location }
  | (_, _) => .error Os.Error.notDirectory

/-- Where the process is after an entry has moved. -/
def currentAfterMove (old new : Location) (host : Host) : Location :=
  if old.isPrefixOf host.current then new ++ host.current.drop old.length
  else if host.current = new then FileTree.deleted new
  else host.current

/-- Moves a directory entry.  An entry at the target is replaced if neither is a
directory or if both are and the target is empty; a directory cannot move below
itself, and nothing moves to another volume. -/
def rename (source target : Path) (host : Host) : Except Os.Error Host := do
  match ← host.entryAt source, ← host.entryAt target with
  | none, _ | _, none => .error Os.Error.busy
  | some (_, none), _ => .error Os.Error.noSuchFile
  | some (source, some node), some (target, other) =>
      let old := source.location
      let new := target.location
      let moved : Host :=
        { host with
          tree := host.tree.move old new
          current := host.currentAfterMove old new }
      if !FileTree.shareVolume old new then .error Os.Error.otherVolume
      else if node ≠ .directory && (source.asDirectory || target.asDirectory) then
        .error Os.Error.notDirectory
      else if old ≠ new && old.isPrefixOf new then .error Os.Error.invalidArgument
      else if new ≠ old && new.isPrefixOf old then .error Os.Error.directoryNotEmpty
      else
        match other with
        | none =>
            if host.canHold target.directory then .ok moved else .error Os.Error.noSuchFile
        | some other =>
            if old = new || node.isSameFile other then .ok host
            else if node = .directory && other ≠ .directory then .error Os.Error.notDirectory
            else if node ≠ .directory && other = .directory then .error Os.Error.isDirectory
            else if host.tree.hasEntries new then .error Os.Error.directoryNotEmpty
            else .ok moved

end Host

end LineLog
