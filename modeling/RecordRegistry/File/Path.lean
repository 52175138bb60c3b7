/-
# File paths

A file path is a sequence of bytes in which slashes separate names.  Repeated slashes, a slash at
the end and the name `.` other than at the front say nothing; `..` stands for the parent of
whatever comes before it.
-/

import RecordRegistry.Text.Utf8

namespace RecordRegistry

/-- A path of a file, as it is written. -/
structure FilePath where
  bytes : Bytes
  deriving DecidableEq, Repr

/-- One step of a path. -/
inductive PathStep
  | root
  | current
  | parent
  | name (bytes : Bytes)
  deriving DecidableEq, Repr

namespace FilePath

/-- The byte that separates names. -/
def slash : UInt8 := 0x2f

/-- The byte before an extension. -/
def dot : UInt8 := 0x2e

/-- The path that a text writes. -/
def ofString (text : String) : FilePath := ⟨Utf8.encode text⟩

/-- The path that the system hands over. -/
def ofSystem (text : SystemText) : FilePath := ⟨text.bytes⟩

/-- A path as it is shown. -/
def shown (path : FilePath) : String := Utf8.decodeLossy path.bytes

/-- The text of a path, if it is text. -/
def text? (path : FilePath) : Option String := Utf8.decode? path.bytes

/-- Whether a path starts from the root of all files. -/
def isAbsolute (path : FilePath) : Bool := path.bytes.head? = some slash

/-- What stands between the slashes of a path. -/
def pieces (path : FilePath) : List Bytes := path.bytes.splitOn slash

/-- Pieces between slashes that say nothing. -/
def isSilent (piece : Bytes) : Bool := piece = [] || piece = [dot]

/-- The piece that stands for the parent of what comes before it. -/
def parentPiece : Bytes := [dot, dot]

/-- How a path begins: with the root, with the current directory, or with neither. -/
def front (path : FilePath) : Bytes :=
  if path.isAbsolute then [slash]
  else if path.pieces.head? = some [dot] then [dot]
  else []

/-- The pieces after the front of a path. -/
def body (path : FilePath) : List Bytes := (path.bytes.drop path.front.length).splitOn slash

/-- The step that a piece between slashes stands for, none if it says nothing. -/
def step? (piece : Bytes) : Option PathStep :=
  if isSilent piece then none
  else if piece = parentPiece then some .parent
  else some (.name piece)

/-- The step that the front of a path stands for, if there is one. -/
def frontStep? (path : FilePath) : Option PathStep :=
  if path.front = [slash] then some .root
  else if path.front = [dot] then some .current
  else none

/-- The steps of a path. -/
def steps (path : FilePath) : List PathStep := path.frontStep?.toList ++ path.body.filterMap step?

/-- The name at the end of a path, none if the path ends otherwise. -/
def fileName? (path : FilePath) : Option Bytes :=
  match path.steps.getLast? with
  | some (.name bytes) => some bytes
  | _ => none

/-- Cuts a name at its last dot, unless nothing is before it. -/
def cut? (name : Bytes) : Option (Bytes × Bytes) :=
  let after := name.reverse.takeWhile (· ≠ dot)
  let before := (name.reverse.drop (after.length + 1)).reverse
  if after.length = name.length || before = [] then none else some (before, after.reverse)

/-- The name at the end of a path without its extension. -/
def stem? (path : FilePath) : Option Bytes :=
  path.fileName?.map fun name => ((cut? name).map Prod.fst).getD name

/-- The extension of the name at the end of a path. -/
def extension? (path : FilePath) : Option Bytes :=
  path.fileName?.bind fun name => (cut? name).map Prod.snd

/-- Pieces without the silent ones at their end. -/
def trimmed (pieces : List Bytes) : List Bytes := (pieces.reverse.dropWhile isSilent).reverse

/-- The path that pieces write after a front. -/
def ofPieces (front : Bytes) (pieces : List Bytes) : FilePath :=
  ⟨front ++ [slash].intercalate pieces⟩

/-- A path without its last step; none if it has no step, or only the root. -/
def parent? (path : FilePath) : Option FilePath :=
  match path.body.reverse.dropWhile isSilent with
  | _ :: before => some (ofPieces path.front (trimmed before.reverse))
  | [] => if path.front = [dot] then some ⟨[]⟩ else none

/-- The paths from a path outward, in at most `count` steps. -/
def outward : Nat → FilePath → List FilePath
  | 0, _ => []
  | count + 1, path =>
    match path.parent? with
    | some parent => path :: outward count parent
    | none => [path]

/-- A path and all that its steps have passed, from the path itself outward. -/
def ancestors (path : FilePath) : List FilePath := outward (path.bytes.length + 1) path

/-- The path that leads on from a directory. An absolute path does not depend on it. -/
def join (directory path : FilePath) : FilePath :=
  if path.isAbsolute then path
  else if directory.bytes = [] || directory.bytes.getLast? = some slash then
    ⟨directory.bytes ++ path.bytes⟩
  else ⟨directory.bytes ++ slash :: path.bytes⟩

/-- The pieces that remain after a number of steps. -/
def afterSteps : Nat → List Bytes → List Bytes
  | 0, pieces => pieces.dropWhile isSilent
  | _ + 1, [] => []
  | count + 1, piece :: rest =>
    if isSilent piece then afterSteps (count + 1) rest else afterSteps count rest

/-- A path as it leads on from a directory, none if it does not begin with the steps of the
directory. -/
def relative? (path directory : FilePath) : Option FilePath :=
  if directory.steps.isPrefixOf path.steps then
    match directory.steps.length, path.front with
    | 0, front => some (ofPieces front (trimmed path.body))
    | count + 1, [] => some (ofPieces [] (trimmed (afterSteps (count + 1) path.body)))
    | count + 1, _ => some (ofPieces [] (trimmed (afterSteps count path.body)))
  else none

end FilePath

end RecordRegistry
