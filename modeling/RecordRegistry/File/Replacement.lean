/-
# Replacing a file

A file is replaced as a whole: the new content goes to a temporary file in the same directory,
which takes the mode of the old file and then its place.  A reader finds the old content or the new
one at any time, and a file that has the wanted content already is left alone.  The work is cut into
steps, each of which is one access to the file system, so that several replacements can be followed
side by side.
-/

import RecordRegistry.File.Change

namespace RecordRegistry

/-- What replacing a file came to. -/
inductive WriteOutcome
  | written
  | unchanged
  deriving DecidableEq, Repr

namespace WriteOutcome

/-- The word for an outcome. -/
def text : WriteOutcome → String
  | written => "written"
  | unchanged => "unchanged"

end WriteOutcome

/-- A fault on the way, and the path that it concerns. -/
structure WriteFailure where
  path : FilePath
  fault : FileFault
  deriving DecidableEq, Repr

/-- A file that is to be replaced, seen from a working directory. -/
structure Replacement where
  here : Location
  path : FilePath
  content : Bytes
  deriving DecidableEq, Repr

/-- How far a replacement has come. -/
inductive ReplacementStage
  /-- The content that is there is to be compared. -/
  | compare
  | makeParents
  | makeTemporary
  | fill (temporary : Location)
  | flush (temporary : Location)
  | setMode (temporary : Location)
  | rename (temporary : Location)
  | finished (result : Except WriteFailure WriteOutcome)

namespace ReplacementStage

/-- The number of steps that may still follow. -/
def remaining : ReplacementStage → Nat
  | compare => 7
  | makeParents => 6
  | makeTemporary => 5
  | fill _ => 4
  | flush _ => 3
  | setMode _ => 2
  | rename _ => 1
  | finished _ => 0

end ReplacementStage

/-- The beginning of the names of temporary files, which hides them. -/
def temporaryStem : Bytes := Utf8.encode ".tmp"

/-- The mode of temporary files. -/
def temporaryMode : Nat := 0o600

namespace Replacement

/-- The directory that the file is in. -/
def parent (replacement : Replacement) : FilePath :=
  match replacement.path.parent? with
  | some ⟨[]⟩ | none => .ofString "."
  | some parent => parent

/-- The failure of a step that concerns the file itself. -/
def failed (replacement : Replacement) (fault : FileFault) : ReplacementStage :=
  .finished (.error ⟨replacement.path, fault⟩)

/-- A name that begins like those of temporary files and is longer than all the given ones. -/
def freshName (names : List Bytes) : Bytes :=
  temporaryStem ++ List.replicate ((names.map List.length).foldl max 0) 0x30

/-- The names that a path and the targets of links are made of. -/
def spokenNames (files : FileSystem) (path : FilePath) : List Bytes :=
  path.pieces ++ files.nodes.flatMap fun entry =>
    match entry.2 with
    | .link target => target.pieces
    | _ => []

/-- A location for a temporary file in a directory, where nothing is. Neither the path nor any link
speaks of its name. -/
def freshLocation (files : FileSystem) (path : FilePath) (directory : Location) : Location :=
  freshName (files.names directory ++ spokenNames files path) :: directory

/-- The mode that the new file gets: that of whatever the path leads to, if it leads anywhere.  A
link to a directory can be replaced, too. -/
def mode (replacement : Replacement) (files : FileSystem) : Nat :=
  match files.find replacement.here replacement.path with
  | .ok (_, node) => node.mode?.getD plainMode
  | .error _ => plainMode

/-- The file system with other content in a file, if the file is there. -/
def refill (files : FileSystem) (location : Location) (content : Bytes) : FileSystem :=
  match files.node? location with
  | some (.file mode _) => files.put location (.file mode content)
  | _ => files

/-- The file system with another mode of a file, if the file is there. -/
def remode (files : FileSystem) (location : Location) (mode : Nat) : FileSystem :=
  match files.node? location with
  | some (.file _ content) => files.put location (.file mode content)
  | _ => files

/-- The next step of a replacement. If the temporary file cannot take its place, it is removed. -/
def step (replacement : Replacement) (files : FileSystem) :
    ReplacementStage → FileSystem × ReplacementStage
  | .compare =>
    match files.read replacement.here replacement.path with
    | .ok content =>
      (files, if content = replacement.content then .finished (.ok .unchanged) else .makeParents)
    | .error _ => (files, .makeParents)
  | .makeParents =>
    match files.makeDirectories replacement.here replacement.parent with
    | (made, .ok ()) => (made, .makeTemporary)
    | (made, .error fault) => (made, .finished (.error ⟨replacement.parent, fault⟩))
  | .makeTemporary =>
    match files.find replacement.here replacement.parent with
    | .ok (directory, .directory _) =>
      let temporary := freshLocation files replacement.path directory
      (files.put temporary (.file temporaryMode []), .fill temporary)
    | .ok _ => (files, replacement.failed .notDirectory)
    | .error fault => (files, replacement.failed fault)
  | .fill temporary => (refill files temporary replacement.content, .flush temporary)
  | .flush temporary => (files, .setMode temporary)
  | .setMode temporary => (remode files temporary (replacement.mode files), .rename temporary)
  | .rename temporary =>
    match files.rename replacement.here temporary replacement.path with
    | .ok renamed => (renamed, .finished (.ok .written))
    | .error fault => (files.erase temporary, replacement.failed fault)
  | .finished result => (files, .finished result)

/-- Every step leaves fewer steps to follow. -/
theorem remaining_step_lt (replacement : Replacement) (files : FileSystem)
    (stage : ReplacementStage) (unfinished : stage.remaining ≠ 0) :
    (replacement.step files stage).2.remaining < stage.remaining := by
  cases stage <;> simp only [step] <;> repeat' split
  all_goals first
    | exact absurd rfl unfinished
    | simp [ReplacementStage.remaining, failed]

/-- Goes through the remaining steps one after the other. -/
def finish (replacement : Replacement) (files : FileSystem) (stage : ReplacementStage) :
    FileSystem × Except WriteFailure WriteOutcome :=
  match _reached : stage with
  | .finished result => (files, result)
  | .compare | .makeParents | .makeTemporary | .fill _ | .flush _ | .setMode _ | .rename _ =>
    replacement.finish (replacement.step files stage).1 (replacement.step files stage).2
termination_by stage.remaining
decreasing_by
  all_goals
    subst _reached
    exact remaining_step_lt _ _ _ (by simp [ReplacementStage.remaining])

/-- Replaces a file. -/
def run (replacement : Replacement) (files : FileSystem) :
    FileSystem × Except WriteFailure WriteOutcome :=
  replacement.finish files .compare

end Replacement

end RecordRegistry
