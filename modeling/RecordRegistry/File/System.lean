/-
# File systems

A file system says what there is at each location: a file with its mode and content, a directory
with its mode, or a link that stands for another path.  Only finitely many locations hold something,
and the root always holds a directory.  What the directory at a location contains is what there is
one name further on.
-/

import RecordRegistry.File.Path

namespace RecordRegistry

/-- A place for a file: the names on the way to it, from the last one back to the root. -/
abbrev Location := List Bytes

/-- What there can be at a location. -/
inductive FileNode
  | file (mode : Nat) (content : Bytes)
  | directory (mode : Nat)
  | link (target : FilePath)
  deriving DecidableEq, Repr

namespace FileNode

/-- Whether a directory is there. -/
def isDirectory : FileNode → Bool
  | directory _ => true
  | _ => false

/-- The mode of a file or directory; a link has none of its own. -/
def mode? : FileNode → Option Nat
  | file mode _ | directory mode => some mode
  | link _ => none

end FileNode

/-- The mode of a directory that is made without a wish for another. -/
def directoryMode : Nat := 0o755

/-- What there is at each location.  Of the root, only the mode of a directory counts. -/
structure FileSystem where
  nodes : List (Location × FileNode)
  deriving DecidableEq, Repr

namespace Location

/-- The path to a location from the root. -/
def path (location : Location) : FilePath :=
  ⟨FilePath.slash :: [FilePath.slash].intercalate location.reverse⟩

end Location

namespace FileSystem

/-- A file system in which the root is empty. -/
def empty : FileSystem := ⟨[]⟩

/-- The mode of the root. -/
def rootMode (files : FileSystem) : Nat :=
  match files.nodes.lookup [] with
  | some (.directory mode) => mode
  | _ => directoryMode

/-- What there is at a location. -/
def node? (files : FileSystem) (location : Location) : Option FileNode :=
  if location = [] then some (.directory files.rootMode) else files.nodes.lookup location

/-- The file system without what there is at one location. -/
def erase (files : FileSystem) (location : Location) : FileSystem :=
  ⟨files.nodes.filter fun entry => entry.1 ≠ location⟩

/-- The file system with something else at one location. -/
def put (files : FileSystem) (location : Location) (node : FileNode) : FileSystem :=
  ⟨(location, node) :: (files.erase location).nodes⟩

/-- The file system without a location and all that lies below it. -/
def prune (files : FileSystem) (location : Location) : FileSystem :=
  ⟨files.nodes.filter fun entry => !location.isSuffixOf entry.1⟩

/-- The name that leads from a directory to a location, if one name does. -/
def nameIn? (directory : Location) : Location → Option Bytes
  | name :: outer => if outer = directory then some name else none
  | [] => none

/-- The names in a directory, in no order that matters. -/
def names (files : FileSystem) (directory : Location) : List Bytes :=
  files.nodes.filterMap fun entry => nameIn? directory entry.1

/-- The names from a directory to a location below it, outermost first; none if it is not below. -/
def namesBelow? (directory location : Location) : Option (List Bytes) :=
  if directory.isSuffixOf location && directory ≠ location then
    some (location.take (location.length - directory.length)).reverse
  else none

/-- The order of the names on the way to a location. -/
def wayLe (first second : List Bytes × FileNode) : Bool := first.1 ≤ second.1

/-- What there is below a directory, with the path from the directory. -/
def below (files : FileSystem) (directory : Location) : List (FilePath × FileNode) :=
  let found := files.nodes.filterMap fun (location, node) =>
    (namesBelow? directory location).map fun names => (names, node)
  (found.mergeSort wayLe).map fun (names, node) =>
    (FilePath.ofPieces [] names, node)

end FileSystem

end RecordRegistry
