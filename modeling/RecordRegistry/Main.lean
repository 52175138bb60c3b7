/-
# The program

The outer layer: it copies the files that an invocation can look at into a file system, runs the
command line on it, carries out the changes and prints what is to be printed.  Links are read as
what they lead to.
-/

import RecordRegistry.Command.Line

namespace RecordRegistry

namespace Program

/-- What there is on disk at a location; none if nothing is there that can be read. -/
def look (location : Location) : IO (Option FileNode) := do
  match location.path.text? with
  | none => return none
  | some text =>
    let place := System.mkFilePath [text]
    if ← place.isDir then return some (.directory directoryMode)
    else
      try
        let content ← IO.FS.readBinFile place
        return some (.file plainMode content.toList)
      catch _ => return none

/-- Copies what there is at a location. -/
def copy (files : FileSystem) (location : Location) : IO FileSystem := do
  match location, ← look location with
  | _ :: _, some node => return files.put location node
  | _, _ => return files

/-- Copies what there is on the way along a path, from a location on. -/
def copyAlong (files : FileSystem) (location : Location) : List Bytes → IO FileSystem
  | [] => return files
  | piece :: rest => do
    if FilePath.isSilent piece then copyAlong files location rest
    else if piece = FilePath.parentPiece then copyAlong files location.tail rest
    else copyAlong (← copy files (piece :: location)) (piece :: location) rest

/-- Copies what there is in a directory. -/
def copyEntries (files : FileSystem) (here : Location) (path : FilePath) : IO FileSystem := do
  match files.find here path, path.text? with
  | .ok (location, .directory _), some text =>
    let entries ← (System.mkFilePath [text]).readDir
    entries.foldlM (fun files entry => copy files (Utf8.encode entry.fileName :: location)) files
  | _, _ => return files

/-- Copies what decides about the project that a directory belongs to. -/
def copyProjects (files : FileSystem) : Location → IO FileSystem
  | [] => return files
  | name :: outer => do
    let files ← copyProjects files outer
    let files ← copy files (name :: outer)
    let root := Location.path (name :: outer)
    let files ← copyAlong files [] (root.join Project.manifestName).pieces
    copyAlong files [] (Project.configurationAt root).pieces

/-- The variables that a setting refers to. -/
def references (value : String) : List String :=
  (Expansion.pieces none value.toList).filterMap fun piece =>
    match piece with
    | .reference name => some name
    | _ => none

/-- The values of those of the named variables that are set. -/
def valuesOf (names : List String) : IO Environment :=
  names.filterMapM fun name => do
    return (← IO.getEnv name).map fun value => (.ofString name, .ofString value)

/-- The variables that decide how the program works. -/
def settingNames : List String :=
  ["MODELREG_SOURCE_DIR", "MODELREG_OUTPUT_FILE", "CLICOLOR_FORCE", "NO_COLOR", "RUST_LOG",
    "RUST_LOG_STYLE"]

/-- The overrides of an action. -/
def overrides : Action → Overrides
  | .init _ => .none
  | .generate overrides _ => overrides
  | .scan source => { Overrides.none with source := source }

/-- Carries out a change on disk. A file is written beside its place and then moved there. -/
def carryOut (location : Location) (node : FileNode) : IO Unit := do
  match location.path.text?, node with
  | some text, .directory _ => IO.FS.createDirAll text
  | some text, .file _ content =>
    let temporary := text ++ ".tmp"
    IO.FS.writeBinFile temporary ⟨content.toArray⟩
    IO.FS.rename temporary text
  | _, _ => return

/-- Runs the program with the words of a command line. -/
def run (words : List SystemText) : IO UInt32 := do
  let here : Location := ((FilePath.ofString (← IO.currentDir).toString).body.filter fun piece =>
    !FilePath.isSilent piece).reverse
  let files ← copyProjects .empty here
  let project := Project.findFrom files here here.path
  let configured := match project with
    | .ok project => references project.settings.source ++ references project.settings.output
    | .error _ => []
  let environment ← valuesOf (settingNames ++ configured)
  let generator := do
    let invocation ← (Invocation.parse environment words).toOption
    let project ← project.toOption
    (project.generator environment (overrides invocation.action)).toOption
  let files ← match generator with
    | some generator => do
      let files ← copyAlong files [] generator.source.pieces
      let files ← copyAlong files [] generator.output.pieces
      copyEntries files here generator.source
    | none => pure files
  let (after, outcome) := CommandLine.run files here environment words
  let changes := after.nodes.filter fun (location, node) => files.node? location ≠ some node
  (changes.mergeSort fun first second => first.1.length ≤ second.1.length).forM fun (location, node) =>
    carryOut location node
  IO.print outcome.output
  IO.eprint outcome.errors
  return UInt32.ofNat outcome.code

end Program

end RecordRegistry

/-- The entry point of the program. -/
def main (words : List String) : IO UInt32 :=
  RecordRegistry.Program.run (words.map RecordRegistry.SystemText.ofString)
