/-
# Records of a generation

What is noted while a package is scanned, its declarations are collected and its registry is
written.
-/

import RecordRegistry.Generator
import RecordRegistry.Log

namespace RecordRegistry

namespace Visit

/-- Whether a visit ends the scan. -/
def isFailed : Visit → Bool
  | failed _ => true
  | _ => false

/-- The note about a visit, if there is one. -/
def record? : Visit → Option LogRecord
  | source unit =>
    some ⟨.debug, "modelreg_build::scanner",
      "parsed " ++ unit.path.shown ++ " (" ++ toString unit.source.items.length ++
        " top-level items)"⟩
  | excluded path =>
    some ⟨.debug, "modelreg_build::scanner", "skipping generated file " ++ path.shown⟩
  | passed | failed _ => none

end Visit

namespace Package

/-- The notes about a scan. -/
def records (files : FileSystem) (here : Location) (directory : FilePath)
    (exclude : Option FilePath) : List LogRecord :=
  match visits files here directory exclude with
  | .error _ => []
  | .ok visits =>
    let reached := visits.takeWhile fun visit => !visit.isFailed
    let units := reached.filterMap Visit.unit?
    reached.filterMap Visit.record? ++
      if reached.length = visits.length then
        [⟨.debug, "modelreg_build::scanner",
          "scanned " ++ toString units.length ++ " source file(s) in " ++ directory.shown⟩]
      else []

end Package

namespace Declaration

/-- The note about a declaration. -/
def record (declaration : Declaration) : LogRecord :=
  ⟨.debug, "modelreg_build::filter",
    declaration.position.file ++ ": `" ++ declaration.name ++ "` classified as " ++
      declaration.shape.text⟩

end Declaration

namespace Generator

/-- The notes about a plan. -/
def planRecords (generator : Generator) (files : FileSystem) (here : Location) : List LogRecord :=
  Package.records files here generator.source (some generator.output) ++
    match generator.plan files here with
    | .error _ => []
    | .ok plan =>
      plan.declarations.map Declaration.record ++
        plan.duplicates.map fun path =>
          ⟨.warn, "modelreg_build::generator",
            "`" ++ path ++ "` is declared more than once in " ++ generator.source.shown⟩

/-- The notes about what a run has done. -/
def runRecords (generator : Generator) (result : Except GenerationError Report) :
    List LogRecord :=
  match result with
  | .error _ => []
  | .ok report =>
    match report.outcome with
    | .unchanged =>
      [⟨.debug, "modelreg_build::emitter", generator.output.shown ++ " is up to date"⟩]
    | .written =>
      [⟨.info, "modelreg_build::emitter", "wrote " ++ generator.output.shown⟩,
        ⟨.info, "modelreg_build::generator",
          "generated " ++ generator.output.shown ++ " with " ++ toString report.entries.length ++
            " model(s)"⟩]

end Generator

end RecordRegistry
