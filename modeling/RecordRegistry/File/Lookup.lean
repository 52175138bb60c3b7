/-
# Looking files up

A path is followed from the working directory, or from the root if it is absolute, one piece after
the other.  Whatever a piece leads on from has to be a directory.  A link is replaced by the pieces
of its target, except for one at the very end that is itself asked for; the number of links on the
way is bounded.  Where a path leads need not hold anything, so that a file can be made there.
-/

import RecordRegistry.File.Fault
import RecordRegistry.File.System

namespace RecordRegistry

/-- How far a path has been followed. -/
inductive Route
  | arrived (location : Location)
  /-- A link in a directory is to be followed, and then the remaining pieces. -/
  | link (directory : Location) (target : FilePath) (rest : List Bytes)
  deriving DecidableEq, Repr

namespace FileSystem

/-- The number of bytes that a name may have. -/
def nameLimit : Nat := 255

/-- The number of bytes that a path may have. -/
def pathLimit : Nat := 4095

/-- The number of links that a path may lead through. -/
def linkLimit : Nat := 40

/-- Follows pieces from a location to the end, or to the first link that is to be followed. -/
def advance (files : FileSystem) (throughLast : Bool) (here : Location) :
    List Bytes → Except FileFault Route
  | [] => .ok (.arrived here)
  | piece :: rest =>
    match files.node? here with
    | none => .error .missing
    | some (.file _ _) | some (.link _) => .error .notDirectory
    | some (.directory _) =>
      if FilePath.isSilent piece then files.advance throughLast here rest
      else if piece = FilePath.parentPiece then files.advance throughLast here.tail rest
      else if nameLimit < piece.length then .error .nameTooLong
      else
        match files.node? (piece :: here) with
        | some (.link target) =>
          if rest = [] && !throughLast then .ok (.arrived (piece :: here))
          else .ok (.link here target rest)
        | _ => files.advance throughLast (piece :: here) rest

/-- Where a path starts from. -/
def start (here : Location) (path : FilePath) : Location := if path.isAbsolute then [] else here

/-- Follows pieces from a location through at most the given number of links. -/
def follow (files : FileSystem) (throughLast : Bool) :
    Nat → Location → List Bytes → Except FileFault Location
  | links, here, pieces =>
    match files.advance throughLast here pieces with
    | .error fault => .error fault
    | .ok (.arrived location) => .ok location
    | .ok (.link directory target rest) =>
      match links with
      | 0 => .error .tooManyLinks
      | links + 1 => files.follow throughLast links (start directory target) (target.pieces ++ rest)

/-- Whether a path can be followed at all. -/
def acceptPath (path : FilePath) : Except FileFault Unit :=
  if path.bytes.contains 0 then .error .zeroInPath
  else if path.bytes = [] then .error .missing
  else if pathLimit < path.bytes.length then .error .nameTooLong
  else .ok ()

/-- Where a path leads. Whether a link at its end is followed is for the caller to say. -/
def locate (files : FileSystem) (here : Location) (path : FilePath) (throughLast : Bool) :
    Except FileFault Location := do
  acceptPath path
  files.follow throughLast linkLimit (start here path) path.pieces

/-- Where a path leads, and what is there. -/
def find (files : FileSystem) (here : Location) (path : FilePath) :
    Except FileFault (Location × FileNode) := do
  let location ← files.locate here path true
  match files.node? location with
  | some node => return (location, node)
  | none => throw .missing

/-- Whether a path leads to something. -/
def isPresent (files : FileSystem) (here : Location) (path : FilePath) : Bool :=
  (files.find here path).isOk

/-- Whether a path leads to a directory. -/
def isDirectory (files : FileSystem) (here : Location) (path : FilePath) : Bool :=
  match files.find here path with
  | .ok (_, .directory _) => true
  | _ => false

/-- The content of the file that a path leads to. -/
def read (files : FileSystem) (here : Location) (path : FilePath) : Except FileFault Bytes := do
  match ← files.find here path with
  | (_, .file _ content) => return content
  | (_, .directory _) => throw .isDirectory
  | (_, .link _) => throw .tooManyLinks

/-- The content of the file that a path leads to, as text. -/
def readText (files : FileSystem) (here : Location) (path : FilePath) :
    Except FileFault String := do
  match Utf8.decode? (← files.read here path) with
  | some text => return text
  | none => throw .notText

/-- The location that a path stands for, also if nothing is there but the directory that it names
exists. -/
def target? (files : FileSystem) (here : Location) (path : FilePath) : Option Location :=
  match files.find here path with
  | .ok (location, _) => some location
  | .error _ =>
    let parent := match path.parent? with
      | some ⟨[]⟩ | none => FilePath.ofString "."
      | some parent => parent
    match files.find here parent, path.fileName? with
    | .ok (location, _), some name => some (name :: location)
    | _, _ => none

end FileSystem

end RecordRegistry
