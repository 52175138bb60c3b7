/-
# Changing files

What making, writing, linking, renaming and removing does to a file system.  Making and renaming
act on the last name of a path itself; writing follows a link there.
-/

import RecordRegistry.File.Lookup

namespace RecordRegistry

/-- The mode of a file that is made without a wish for another. -/
def plainMode : Nat := 0o644

/-- The directory and the last name that a path stands for. -/
structure Ending where
  directory : Location
  /-- The last piece of the path; none if the path has no other pieces than the root. -/
  last : Option Bytes
  /-- Whether slashes follow the last piece. -/
  slashed : Bool
  deriving DecidableEq, Repr

namespace Ending

/-- The location of the last name, none if the path ends with a step that is no name. -/
def location? (ending : Ending) : Option Location :=
  match ending.last with
  | some name =>
    if FilePath.isSilent name || name = FilePath.parentPiece then none
    else some (name :: ending.directory)
  | none => none

end Ending

namespace FileSystem

/-- The ending of a path, whose directory has to be there. -/
def ending (files : FileSystem) (here : Location) (path : FilePath) : Except FileFault Ending := do
  acceptPath path
  let (slashes, pieces) := path.pieces.reverse.span (· = [])
  let before := pieces.tail.reverse ++ [[FilePath.dot]]
  let directory ← files.follow true linkLimit (start here path) before
  if nameLimit < (pieces.head?.getD []).length then throw .nameTooLong
  return ⟨directory, pieces.head?, slashes ≠ []⟩

/-- Makes a directory where there is nothing. -/
def makeDirectory (files : FileSystem) (here : Location) (path : FilePath) :
    Except FileFault FileSystem := do
  match (← files.ending here path).location? with
  | none => throw .present
  | some location =>
    match files.node? location with
    | some _ => throw .present
    | none => return files.put location (.directory directoryMode)

/-- Makes the first of the given directories that is not there, after those behind it, which it is
to be in. What has been made stays, also if something fails after it. -/
def makeFrom (files : FileSystem) (here : Location) :
    List FilePath → FileSystem × Except FileFault Unit
  | [] => (files, .ok ())
  | path :: outer =>
    match files.makeDirectory here path with
    | .ok made => (made, .ok ())
    | .error .missing =>
      match files.makeFrom here outer with
      | (made, .error fault) => (made, .error fault)
      | (made, .ok ()) =>
        match made.makeDirectory here path with
        | .ok all => (all, .ok ())
        | .error fault =>
          (made, if fault = .present && made.isDirectory here path then .ok () else .error fault)
    | .error fault =>
      (files, if fault = .present && files.isDirectory here path then .ok () else .error fault)

/-- Makes a directory and those on the way to it, as far as they are not there. -/
def makeDirectories (files : FileSystem) (here : Location) (path : FilePath) :
    FileSystem × Except FileFault Unit :=
  files.makeFrom here (path.ancestors.filter fun ancestor => ancestor.parent?.isSome)

/-- Writes a file, which keeps its mode if it is there. -/
def write (files : FileSystem) (here : Location) (path : FilePath) (content : Bytes) :
    Except FileFault FileSystem := do
  if (← files.ending here path).slashed then throw .isDirectory
  let location ← files.locate here path true
  match files.node? location with
  | some (.file mode _) => return files.put location (.file mode content)
  | some (.directory _) => throw .isDirectory
  | some (.link _) => throw .tooManyLinks
  | none => return files.put location (.file plainMode content)

/-- Gives the file that a path leads to another mode. -/
def setMode (files : FileSystem) (here : Location) (path : FilePath) (mode : Nat) :
    Except FileFault FileSystem := do
  match ← files.find here path with
  | (location, .file _ content) => return files.put location (.file mode content)
  | _ => return files

/-- Makes a link where there is nothing. -/
def makeLink (files : FileSystem) (here : Location) (path target : FilePath) :
    Except FileFault FileSystem := do
  acceptPath target
  let ending ← files.ending here path
  match ending.location? with
  | none => throw .present
  | some location =>
    match files.node? location with
    | some _ => throw .present
    | none => if ending.slashed then throw .missing else return files.put location (.link target)

/-- Moves the file at a location to where a path ends, in place of a file or link there. -/
def rename (files : FileSystem) (here : Location) (source : Location) (path : FilePath) :
    Except FileFault FileSystem := do
  let ending ← files.ending here path
  match ending.location?, files.node? source with
  | none, _ => throw .busy
  | _, none => throw .missing
  | some location, some node =>
    if ending.slashed then throw .notDirectory
    else if (files.node? location).any FileNode.isDirectory then throw .isDirectory
    else return (files.erase source).put location node

/-- Removes a file, a link, or a directory with all that is in it. -/
def remove (files : FileSystem) (here : Location) (path : FilePath) :
    Except FileFault FileSystem := do
  let location ← files.locate here path false
  match files.node? location with
  | some _ => return files.prune location
  | none => throw .missing

end FileSystem

end RecordRegistry
