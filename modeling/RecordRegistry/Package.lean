/-
# Packages

A package is a directory of source files.  Its entries are visited in the order of their names,
whatever order the directory lists them in, and links are followed.  Visible regular files with
the extension of sources are read as units; the file that the registry is written to is passed
over.  The first entry that cannot be visited is the error for the whole package.
-/

import RecordRegistry.GenerationError

namespace RecordRegistry

/-- A source file of a package. -/
structure SourceUnit where
  path : FilePath
  /-- The module that the file declares; none if the file is the root of its package. -/
  module : Option String
  source : SourceFile

namespace SourceUnit

/-- The name of the file. -/
def fileName (unit : SourceUnit) : String := (unit.path.fileName?.map Utf8.decodeLossy).getD ""

/-- The type declarations of a source file. -/
def declarations (unit : SourceUnit) : List Declaration :=
  unit.source.declarations unit.fileName unit.module

end SourceUnit

/-- The source files of a directory. -/
structure Package where
  directory : FilePath
  units : List SourceUnit

/-- What visiting an entry of a directory comes to. -/
inductive Visit
  /-- The entry is no source file. -/
  | passed
  /-- The entry is the file that is not to be looked at. -/
  | excluded (path : FilePath)
  | source (unit : SourceUnit)
  | failed (error : GenerationError)

namespace Visit

/-- The source file of a visit, if there is one. -/
def unit? : Visit → Option SourceUnit
  | source unit => some unit
  | _ => none

/-- The error of a visit, if there is one. -/
def error? : Visit → Option GenerationError
  | failed error => some error
  | _ => none

end Visit

namespace Package

/-- The names of files that declare no module of their own. -/
def rootStems : List String := ["mod", "lib", "main"]

/-- The module that a file of the given name without extension declares. -/
def moduleOf (stem : String) : Option String :=
  if rootStems.contains stem then none else some stem

/-- Whether a path ends like that of a source file that is not hidden. -/
def isSourcePath (path : FilePath) : Bool :=
  let hidden := match path.fileName? with
    | some name => name.head? = some FilePath.dot
    | none => false
  !hidden && path.extension? = some (Utf8.encode "rs")

/-- Reads a source file. -/
def readUnit (files : FileSystem) (here : Location) (path : FilePath) :
    Except GenerationError SourceUnit := do
  let some stem := path.stem?.bind Utf8.decode? | throw (.unreadable path .nameNotText)
  let text ← (files.readText here path).mapError fun fault => .unreadable path (.access fault)
  let source ← (SourceFile.parse text).mapError (.malformed path)
  return ⟨path, moduleOf stem, source⟩

/-- Visits a regular file, or a link to one, in a directory. -/
def visitFile (files : FileSystem) (here : Location) (excluded : Option Location)
    (path : FilePath) : Visit :=
  if !isSourcePath path then .passed
  else if excluded.isSome && files.target? here path = excluded then .excluded path
  else
    match readUnit files here path with
    | .ok unit => .source unit
    | .error error => .failed error

/-- Visits one entry of a directory, which is at the given location. -/
def visit (files : FileSystem) (here : Location) (directory : FilePath) (location : Location)
    (excluded : Option Location) (name : Bytes) : Visit :=
  let path := directory.join ⟨name⟩
  match files.node? (name :: location) with
  | some (.file _ _) => visitFile files here excluded path
  | some (.link _) =>
    match files.find here path with
    | .error fault => .failed (.unreadable path (.entry path fault))
    | .ok (_, .file _ _) => visitFile files here excluded path
    | .ok (found, _) =>
      if found = location then .failed (.unreadable path (.cycle path directory)) else .passed
  | some (.directory _) | none => .passed

/-- The order of names. -/
def nameLe (first second : Bytes) : Bool := first ≤ second

/-- The visits to all entries of a directory, in the order of their names. -/
def visits (files : FileSystem) (here : Location) (directory : FilePath)
    (exclude : Option FilePath) : Except GenerationError (List Visit) := do
  let (location, node) ← (files.find here directory).mapError fun fault =>
    GenerationError.unreadable directory (.access fault)
  if !node.isDirectory then throw (.notDirectory directory)
  let excluded := exclude.bind (files.target? here)
  return ((files.names location).mergeSort nameLe).map
    (visit files here directory location excluded)

/-- Scans a directory for source files. The file that a path stands for can be excluded. -/
def scan (files : FileSystem) (here : Location) (directory : FilePath)
    (exclude : Option FilePath) : Except GenerationError Package := do
  let visits ← visits files here directory exclude
  match visits.findSome? Visit.error? with
  | some error => throw error
  | none => return ⟨directory, visits.filterMap Visit.unit?⟩

/-- The type declarations of a package, file by file. -/
def declarations (package : Package) : List Declaration :=
  package.units.flatMap SourceUnit.declarations

end Package

end RecordRegistry
