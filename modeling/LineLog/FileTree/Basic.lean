import LineLog.FileContents
import LineLog.Path

/-!
# File trees

A tree assigns a node to every location, a location being the list of names
that leads there from the root.  Regular files are identified by a number, so
that a file keeps its contents while its name is changed or deleted, and two
names or two descriptors can share one file.  Symbolic links are nodes of
their own: no location contains one before its last name.
-/

namespace LineLog

/-- The names from the root down to a place in the tree. -/
abbrev Location := List Name

/-- Special files: what is written to them is dropped, refused, or passed on to
what the process itself writes. -/
inductive Device where
  | null
  | full
  | output
  | complaints
  deriving DecidableEq, Repr

inductive Node where
  | directory
  | file (id : Nat)
  | link (target : Path)
  | device (kind : Device)
  deriving DecidableEq, Repr

/-- Whether two nodes are one file. -/
def Node.isSameFile : Node → Node → Bool
  | .file id, .file other => id = other
  | _, _ => false

structure FileTree where
  nodes : List (Location × Node)
  contents : Array FileContents

namespace FileTree

/-- A tree with nothing below the root. -/
def empty : FileTree where
  nodes := []
  contents := #[]

def node? (tree : FileTree) (location : Location) : Option Node :=
  if location = [] then some .directory else tree.nodes.lookup location

def insert (location : Location) (node : Node) (tree : FileTree) : FileTree :=
  { tree with nodes := (location, node) :: tree.nodes.filter (·.1 ≠ location) }

def erase (location : Location) (tree : FileTree) : FileTree :=
  { tree with nodes := tree.nodes.filter (·.1 ≠ location) }

/-- Moves a node and everything below it. -/
def move (source target : Location) (tree : FileTree) : FileTree :=
  let kept := tree.nodes.filter fun entry => !target.isPrefixOf entry.1
  { tree with
    nodes := kept.map fun (location, node) =>
      if source.isPrefixOf location then (target ++ location.drop source.length, node)
      else (location, node) }

/-- Whether a directory has entries. -/
def hasEntries (location : Location) (tree : FileTree) : Bool :=
  tree.nodes.any fun entry => location.isPrefixOf entry.1 && entry.1 ≠ location

def fileContents (tree : FileTree) (id : Nat) : FileContents :=
  tree.contents.getD id .empty

/-- Gives a file its contents, also one that has not had any yet. -/
def setContents (id : Nat) (contents : FileContents) (tree : FileTree) : FileTree :=
  let missing := Array.replicate (id + 1 - tree.contents.size) FileContents.empty
  { tree with contents := (tree.contents ++ missing).setIfInBounds id contents }

/-- Where a process is whose directory `location` has been deleted.  Nothing can
be created there; the way up leads to where it led before. -/
def deleted (location : Location) : Location :=
  location.dropLast ++ [[]]

/-- Creates an empty file and returns its number. -/
def createFile (location : Location) (tree : FileTree) : FileTree × Nat :=
  let id := tree.contents.size
  ({ tree with contents := tree.contents.push .empty }.insert location (.file id), id)

/-- The directory of the devices. -/
def devices : Location := [Bytes.ofString "dev"]

/-- Whether two locations are on one volume.  The devices have a volume of their
own. -/
def shareVolume (location other : Location) : Bool :=
  devices.isPrefixOf location = devices.isPrefixOf other

/-- The tree of a system that has just started: devices and the directories for
temporary files. -/
def standard : FileTree :=
  let name (text : String) : Location := (text.splitOn "/").map Bytes.ofString
  empty
    |>.insert devices .directory
    |>.insert (name "dev/null") (.device .null)
    |>.insert (name "dev/zero") (.device .null)
    |>.insert (name "dev/random") (.device .null)
    |>.insert (name "dev/urandom") (.device .null)
    |>.insert (name "dev/full") (.device .full)
    |>.insert (name "dev/stdout") (.device .output)
    |>.insert (name "dev/stderr") (.device .complaints)
    |>.insert (name "tmp") .directory
    |>.insert (name "var") .directory
    |>.insert (name "var/tmp") .directory

@[simp]
theorem fileContents_setContents_self (id : Nat) (contents : FileContents) (tree : FileTree) :
    (tree.setContents id contents).fileContents id = contents := by
  have hsize : id < tree.contents.size + (id + 1 - tree.contents.size) := by omega
  simp [fileContents, setContents, Array.getD_eq_getD_getElem?, hsize]

theorem fileContents_setContents_of_ne {id other : Nat} (contents : FileContents)
    (tree : FileTree) (hne : other ≠ id) :
    (tree.setContents id contents).fileContents other = tree.fileContents other := by
  simp only [fileContents, setContents, Array.getD_eq_getD_getElem?,
    Array.getElem?_setIfInBounds_ne (Ne.symm hne), Array.getElem?_append,
    Array.getElem?_replicate]
  split
  · rfl
  · next hge =>
    rw [Array.getElem?_eq_none (by omega)]
    split <;> rfl

/-- A file that has just been created is empty. -/
@[simp]
theorem fileContents_createFile (location : Location) (tree : FileTree) :
    (tree.createFile location).1.fileContents (tree.createFile location).2 = .empty := by
  simp [fileContents, createFile, insert]

end FileTree

end LineLog
