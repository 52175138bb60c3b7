/-
# Projects

A project is a directory with a manifest, and may hold a configuration.  The settings of a registry
come from what is asked for, then from the configuration, then from the defaults; paths in the
configuration may refer to variables, and relative paths lead on from the project.
-/

import RecordRegistry.Generator
import RecordRegistry.Settings.Configuration
import RecordRegistry.Settings.Expansion

namespace RecordRegistry

/-- A project and its configuration. -/
structure Project where
  root : FilePath
  /-- The configured settings; none if there is no configuration. -/
  configured : Option Settings
  deriving DecidableEq, Repr

/-- What is asked for in place of settings. -/
structure Overrides where
  source : Option FilePath
  output : Option FilePath
  package : Option String
  collection : Option String
  deriving DecidableEq, Repr

namespace Overrides

/-- Nothing is asked for. -/
def none : Overrides := ⟨.none, .none, .none, .none⟩

end Overrides

/-- Why a project cannot be used. -/
inductive ProjectError
  | notFound (start : FilePath)
  | unreadable (fault : FileFault)
  | malformed (text : String) (error : ConfigurationError)
  | unexpandable (error : ExpansionError)
  deriving DecidableEq, Repr

namespace ProjectError

/-- The words for an error and its cause. -/
def message : ProjectError → String
  | notFound start =>
    "Could not find Cargo.toml in " ++ Quoted.bytes start.bytes ++
      " or any parent directory. Are you in a Rust project?"
  | unreadable fault => "Failed to read config.toml: " ++ fault.message
  | malformed text error => "Failed to parse config.toml: " ++ error.report text
  | unexpandable error => error.message

end ProjectError

namespace Project

/-- The name of the file that makes a directory a project. -/
def manifestName : FilePath := .ofString "Cargo.toml"

/-- The directory in a project that holds its configuration. -/
def directoryAt (root : FilePath) : FilePath := root.join (.ofString ".modelreg")

/-- The file in a project that is its configuration. -/
def configurationAt (root : FilePath) : FilePath :=
  (directoryAt root).join (.ofString "config.toml")

/-- The directory that holds the configuration. -/
def directory (project : Project) : FilePath := directoryAt project.root

/-- The file that is the configuration. -/
def configuration (project : Project) : FilePath := configurationAt project.root

/-- The project in a directory. -/
def load (files : FileSystem) (here : Location) (root : FilePath) :
    Except ProjectError Project := do
  let path := configurationAt root
  if files.isPresent here path then
    let text ← (files.readText here path).mapError .unreadable
    let settings ← (Settings.parse text).mapError (.malformed text)
    return ⟨root, some settings⟩
  else return ⟨root, none⟩

/-- The innermost directory on a path that has a manifest. -/
def rootFrom? (files : FileSystem) (here : Location) (start : FilePath) : Option FilePath :=
  start.ancestors.find? fun directory => files.isPresent here (directory.join manifestName)

/-- The project that a directory belongs to. -/
def findFrom (files : FileSystem) (here : Location) (start : FilePath) :
    Except ProjectError Project :=
  match rootFrom? files here start with
  | some root => load files here root
  | none => .error (.notFound start)

/-- Whether the configuration is there. -/
def isInitialized (project : Project) (files : FileSystem) (here : Location) : Bool :=
  files.isPresent here project.configuration

/-- The settings that apply if nothing else is asked for. -/
def settings (project : Project) : Settings := project.configured.getD .default

/-- A path setting, with its variables replaced unless something else is asked for. -/
def pathSetting (environment : Environment) (override : Option FilePath) (value : String) :
    Except ProjectError FilePath :=
  match override with
  | some path => .ok path
  | none => ((expand environment value).map FilePath.ofString).mapError .unexpandable

/-- The generator for a project. -/
def generator (project : Project) (environment : Environment) (overrides : Overrides) :
    Except ProjectError Generator := do
  let source ← pathSetting environment overrides.source project.settings.source
  let output ← pathSetting environment overrides.output project.settings.output
  return ⟨project.root.join source, project.root.join output,
    ⟨overrides.package.getD project.settings.naming.package,
      overrides.collection.getD project.settings.naming.collection⟩⟩

/-- A path as it is shown: within the project without the way to the project. -/
def shown (project : Project) (path : FilePath) : String :=
  ((path.relative? project.root).getD path).shown

end Project

end RecordRegistry
