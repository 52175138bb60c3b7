/-
# Generating a registry

A generator scans a package, collects the declarations, selects the records among them and renders
the registry.  It can show what it would do, write the registry, or compare it with the one on
disk.
-/

import RecordRegistry.Package
import RecordRegistry.Reading

namespace RecordRegistry

/-- What a registry is generated from, and where to. -/
structure Generator where
  /-- The directory that is scanned. -/
  source : FilePath
  /-- The file that the registry is written to. -/
  output : FilePath
  naming : Naming
  deriving DecidableEq, Repr

/-- What a generation starts from. -/
structure Plan where
  files : List FilePath
  declarations : List Declaration
  /-- The records among the declarations. -/
  entries : List Entry
  /-- The paths that more than one entry has. -/
  duplicates : List String
  deriving DecidableEq, Repr

/-- What a generation has done. -/
structure Report where
  output : FilePath
  /-- The number of files that were scanned. -/
  files : Nat
  /-- The number of declarations in them. -/
  declarations : Nat
  entries : List Entry
  outcome : WriteOutcome
  deriving DecidableEq, Repr

/-- How the registry on disk compares with the one that would be written. -/
inductive Freshness
  | upToDate
  /-- The two differ; these are the paths that they list. -/
  | stale (onDisk expected : List String)
  | missing
  deriving DecidableEq, Repr

namespace Freshness

/-- The word for a comparison. -/
def text : Freshness → String
  | upToDate => "up_to_date"
  | stale _ _ => "stale"
  | missing => "missing"

end Freshness

namespace Plan

/-- The plan for a package. -/
def ofPackage (package : Package) : Plan :=
  let entries := selectedEntries package.declarations
  ⟨package.units.map SourceUnit.path, package.declarations, entries, duplicatePaths entries⟩

end Plan

namespace Generator

/-- What would be registered. -/
def plan (generator : Generator) (files : FileSystem) (here : Location) :
    Except GenerationError Plan :=
  Plan.ofPackage <$> Package.scan files here generator.source (some generator.output)

/-- The plan together with the text of the registry. -/
def prepare (generator : Generator) (files : FileSystem) (here : Location) :
    Except GenerationError (Plan × String) := do
  let plan ← generator.plan files here
  let text ← (renderRegistry generator.naming plan.entries).mapError .unrenderable
  return (plan, text)

/-- The text of the registry. -/
def render (generator : Generator) (files : FileSystem) (here : Location) :
    Except GenerationError String :=
  Prod.snd <$> generator.prepare files here

/-- Writes the registry. -/
def run (generator : Generator) (files : FileSystem) (here : Location) :
    FileSystem × Except GenerationError Report :=
  match generator.prepare files here with
  | .error error => (files, .error error)
  | .ok (plan, text) =>
    match (Replacement.mk here generator.output (Utf8.encode text)).run files with
    | (changed, .error failure) => (changed, .error (.unwritable failure))
    | (changed, .ok outcome) =>
      (changed, .ok ⟨generator.output, plan.files.length, plan.declarations.length, plan.entries,
        outcome⟩)

/-- The paths that a text lists as a registry of this generator; none if it is no registry. -/
def listed (generator : Generator) (text : String) : List String :=
  (readRegistry text generator.naming.collection).getD []

/-- Compares the registry on disk with the one that would be written. -/
def check (generator : Generator) (files : FileSystem) (here : Location) :
    Except GenerationError Freshness := do
  let text ← generator.render files here
  match files.read here generator.output with
  | .error .missing => return .missing
  | .error fault => throw (.unreadable generator.output (.access fault))
  | .ok content =>
    if content = Utf8.encode text then return .upToDate
    else return .stale (generator.listed (Utf8.decodeLossy content)) (generator.listed text)

end Generator

end RecordRegistry
