/-
# Errors of a generation

Why a registry cannot be generated: a file cannot be read or parsed, a name cannot be rendered, or
the registry cannot be written.  The words for an error include those for its cause.
-/

import RecordRegistry.File.Replacement
import RecordRegistry.Rendering

namespace RecordRegistry

/-- Why a directory, or a file in it, cannot be read. -/
inductive ReadFailure
  | access (fault : FileFault)
  /-- An entry of a directory does not lead to anything. -/
  | entry (path : FilePath) (fault : FileFault)
  /-- An entry of a directory leads back to the directory. -/
  | cycle (path directory : FilePath)
  /-- The name of a source file would have to be the name of a module. -/
  | nameNotText
  deriving DecidableEq, Repr

namespace ReadFailure

/-- The words for a failure. -/
def message : ReadFailure → String
  | access fault => fault.message
  | entry path fault => "IO error for operation on " ++ path.shown ++ ": " ++ fault.message
  | cycle path directory =>
    "File system loop found: " ++ path.shown ++ " points to an ancestor " ++ directory.shown
  | nameNotText => "file name is not valid UTF-8"

/-- The words for the causes of a failure. -/
def causes : ReadFailure → List String
  | entry _ fault => [fault.message]
  | access _ | cycle _ _ | nameNotText => []

end ReadFailure

/-- Why a registry cannot be generated. -/
inductive GenerationError
  | unreadable (path : FilePath) (cause : ReadFailure)
  | notDirectory (path : FilePath)
  | malformed (path : FilePath) (cause : SyntaxError)
  | unrenderable (cause : RenderError)
  | unwritable (failure : WriteFailure)
  deriving DecidableEq, Repr

/-- The part of a generation that an error belongs to. -/
inductive ErrorKind
  | discovery
  | parse
  | emit
  deriving DecidableEq, Repr

namespace ErrorKind

/-- The word for a kind of error. -/
def text : ErrorKind → String
  | discovery => "discovery"
  | parse => "parse"
  | emit => "emit"

end ErrorKind

namespace GenerationError

/-- The kind of an error. -/
def kind : GenerationError → ErrorKind
  | unreadable _ _ | notDirectory _ => .discovery
  | malformed _ _ => .parse
  | unrenderable _ | unwritable _ => .emit

/-- The path that an error is about, if it is about one. -/
def path? : GenerationError → Option FilePath
  | unreadable path _ | notDirectory path | malformed path _ => some path
  | unrenderable _ => none
  | unwritable failure => some failure.path

/-- The words for the causes of an error, from the nearest one on. -/
def causes : GenerationError → List String
  | unreadable _ cause => cause.message :: cause.causes
  | notDirectory _ => []
  | malformed _ cause => [cause.message]
  | unrenderable _ => []
  | unwritable failure => [failure.fault.message]

/-- The words for an error. -/
def message : GenerationError → String
  | unreadable path cause => "failed to read " ++ path.shown ++ ": " ++ cause.message
  | notDirectory path => path.shown ++ " is not a directory"
  | malformed path cause =>
    "failed to parse " ++ path.shown ++ ":" ++ toString cause.position.line ++ ":" ++
      toString cause.position.column ++ ": " ++ cause.message
  | unrenderable cause => "failed to render registry: " ++ cause.message
  | unwritable failure =>
    "failed to write " ++ failure.path.shown ++ ": " ++ failure.fault.message

/-- The words for an error, followed by those for its causes. -/
def account (error : GenerationError) : String := ": ".intercalate (error.message :: error.causes)

end GenerationError

end RecordRegistry
