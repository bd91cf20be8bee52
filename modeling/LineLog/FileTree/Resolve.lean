import LineLog.FileTree.Basic
import LineLog.Os.Error

/-!
# Following a path through the tree

A path is followed name by name from the root or from the current directory.
Every name but the last has to lead to a directory, a symbolic link is replaced
by the path that it holds, and at most forty links are followed.  What the last
name leads to depends on its use, so a walk ends in a `Destination`: an existing
node, or a name that the last directory does not have.
-/

namespace LineLog

/-- Where a path leads. -/
inductive Destination where
  | found (location : Location) (node : Node)
  | missing (directory : Location) (name : Name)
  deriving DecidableEq, Repr

/-- How the last name of a path is treated: whether a link there is followed,
and whether the path is used to create a file, which a path that names a
directory cannot do. -/
structure Purpose where
  follow : Bool
  create : Bool
  deriving DecidableEq, Repr

namespace FileTree

/-- The largest number of symbolic links on one walk. -/
def maxLinks : Nat := 40

/-- Follows `names` from the directory at `here`, with `links` symbolic links
left to follow.  `directory` says whether the end has to be a directory. -/
def walk (tree : FileTree) (purpose : Purpose) (links : Nat) (here : Location)
    (names : List Name) (directory : Bool) : Except Os.Error Destination :=
  match names with
  | [] => .ok (.found here .directory)
  | name :: rest =>
      if name = Path.here then walk tree purpose links here rest directory
      else if name = Path.up then walk tree purpose links here.dropLast rest directory
      else if rest = [] && purpose.create && directory then .error Os.Error.isDirectory
      else if Path.maxName < name.length then .error Os.Error.nameTooLong
      else
        match tree.node? (here ++ [name]) with
        | none =>
            if rest = [] then .ok (.missing here name) else .error Os.Error.noSuchFile
        | some .directory => walk tree purpose links (here ++ [name]) rest directory
        | some (.link target) =>
            if rest = [] && !purpose.follow && !directory then
              .ok (.found (here ++ [name]) (.link target))
            else
              match links with
              | 0 => .error Os.Error.tooManyLinks
              | links + 1 =>
                  let route := Path.route target
                  walk tree purpose links (if route.absolute then [] else here)
                    (route.names ++ rest) (directory || (rest = [] && route.directory))
        | some node =>
            if rest = [] && !directory then .ok (.found (here ++ [name]) node)
            else .error Os.Error.notDirectory
termination_by (links, names.length)

/-- Checks that the system makes before it looks at the tree. -/
def checkPath (path : Path) : Except Os.Error Unit :=
  if path.contains 0 then .error Os.Error.zeroByteInPath
  else if path = [] then .error Os.Error.noSuchFile
  else if Path.maxLength ≤ path.length then .error Os.Error.nameTooLong
  else .ok ()

def resolve (tree : FileTree) (current : Location) (purpose : Purpose) (path : Path) :
    Except Os.Error Destination := do
  checkPath path
  let route := Path.route path
  tree.walk purpose maxLinks (if route.absolute then [] else current) route.names
    route.directory

/-- The node that a path leads to, through a link at its end. -/
def find (tree : FileTree) (current : Location) (path : Path) :
    Except Os.Error (Location × Node) := do
  match ← tree.resolve current ⟨true, false⟩ path with
  | .found location node => .ok (location, node)
  | .missing _ _ => .error Os.Error.noSuchFile

/-- The absolute path without links that names what `path` leads to, unless that
path is too long.  It does not exist for a relative path from a directory that
has been deleted. -/
def canonicalize (tree : FileTree) (current : Location) (path : Path) :
    Except Os.Error Path := do
  let (location, _) ← tree.find current path
  if !(Path.route path).absolute && tree.node? current ≠ some .directory then
    .error Os.Error.noSuchFile
  else
    let resolved := Path.ofNames location
    if Path.maxLength ≤ resolved.length then .error Os.Error.nameTooLong else .ok resolved

/-- A place in an existing directory for an entry with a name. -/
structure Place where
  directory : Location
  name : Name
  /-- Whether a separator follows the name, as behind the name of a directory. -/
  asDirectory : Bool
  deriving DecidableEq, Repr

def Place.location (place : Place) : Location :=
  place.directory ++ [place.name]

/-- The place that a path names, which a link there does not change.  There is
none behind a path that ends in `.` or `..` or names the root. -/
def place (tree : FileTree) (current : Location) (path : Path) :
    Except Os.Error (Option Place) := do
  checkPath path
  let route := Path.route path
  match ← tree.walk ⟨true, false⟩ maxLinks (if route.absolute then [] else current)
      route.names.dropLast true with
  | .missing _ _ => .error Os.Error.noSuchFile
  | .found directory _ =>
      match route.names.getLast? with
      | none => .ok none
      | some name =>
          if name = Path.here || name = Path.up then .ok none
          else if Path.maxName < name.length then .error Os.Error.nameTooLong
          else .ok (some ⟨directory, name, route.directory⟩)

end FileTree

end LineLog
