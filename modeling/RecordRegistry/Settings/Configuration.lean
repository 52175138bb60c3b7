/-
# Settings

What a registry is made from and how, as a project configures it.  Paths are text here, since they
may still refer to variables.

Settings are configured in the table `registry`, whose members all have defaults; any other member
is ignored.  Instead of a table there may be an array, whose elements are the settings in their
order.  A setting that is not a text is an error, of which the first in the text is reported.
-/

import RecordRegistry.Decimal.Shortest
import RecordRegistry.Rendering
import RecordRegistry.Text.Quoted
import RecordRegistry.Toml.Document
import RecordRegistry.Toml.Excerpt

namespace RecordRegistry

/-- The settings of a project. -/
structure Settings where
  /-- The directory with the declarations. -/
  source : String
  /-- The file that holds the registry. -/
  output : String
  naming : Naming
  deriving DecidableEq, Repr

namespace Settings

/-- The settings that are used if none are given. -/
def default : Settings := ⟨"src/entity", "src/entity/models.rs", .default⟩

end Settings

/-- Why a text does not configure settings. -/
inductive ConfigurationError
  | malformed (error : Toml.ParseError)
  /-- A value of another type was wanted. -/
  | wrongType (span : Toml.Span) (found wanted : String)
  deriving DecidableEq, Repr

namespace ConfigurationError

/-- The words for an error, without its place. -/
def message : ConfigurationError → String
  | malformed error => error.fault.message
  | wrongType _ found wanted => "invalid type: " ++ found ++ ", expected " ++ wanted

/-- Where an error is. -/
def span : ConfigurationError → Toml.Span
  | malformed error => error.span
  | wrongType span _ _ => span

/-- The words for an error with an excerpt of the configuration. -/
def report (text : String) (error : ConfigurationError) : String :=
  Toml.excerpt text error.span error.message

end ConfigurationError

namespace Configuration

open Toml (Node Members Scalar Key Span)

/-- How an error names what it found. -/
def found : Node → String
  | .scalar _ (.text value) => "string " ++ Quoted.text value
  | .scalar _ (.integer value) => "integer `" ++ toString value ++ "`"
  | .scalar _ (.float value) => "floating point `" ++ value.text ++ "`"
  | .scalar _ (.boolean value) => "boolean `" ++ toString value ++ "`"
  | .scalar _ .moment => "map"
  | .array _ _ => "sequence"
  | .tables _ => "sequence"
  | .table _ _ _ => "map"

/-- The names of the settings, in their order. -/
def names : List String := ["source_dir", "output_file", "namespace", "collection"]

/-- The settings with another value for the setting of the given name. -/
def update (settings : Settings) (name value : String) : Settings :=
  if name = "source_dir" then { settings with source := value }
  else if name = "output_file" then { settings with output := value }
  else if name = "namespace" then { settings with naming.package := value }
  else if name = "collection" then { settings with naming.collection := value }
  else settings

/-- Takes a setting from a node, which was written at the given place unless it says otherwise. -/
def take (place : Span) (settings : Settings) (name : String) (node : Node) :
    Except ConfigurationError Settings :=
  match node with
  | .scalar _ (.text value) => .ok (update settings name value)
  | _ => .error (.wrongType (node.span?.getD place) (found node) "a string")

/-- Takes a setting from a member of the table, unless the member is none. -/
def takeMember (settings : Settings) (member : Key × Node) : Except ConfigurationError Settings :=
  if names.contains member.1.text then take member.1.span settings member.1.text member.2
  else .ok settings

/-- Takes the settings from what the name of the table stands for. -/
def takeAll (key : Key) (node : Node) : Except ConfigurationError Settings :=
  let ordered := fun (elements : List Node) =>
    (names.zip elements).foldlM (fun settings (name, element) =>
      take key.span settings name element) Settings.default
  match node with
  | .table _ _ members => members.foldlM takeMember .default
  | .scalar _ .moment => .ok .default
  | .array _ elements => ordered elements
  | .tables elements => ordered elements
  | .scalar span _ => .error (.wrongType span (found node) "struct RegistrySettings")

end Configuration

namespace Settings

/-- The settings that a text configures. -/
def parse (text : String) : Except ConfigurationError Settings := do
  let members ← (Toml.parse text).mapError .malformed
  match List.find? (fun member => member.1.text = "registry") members with
  | some (key, node) => Configuration.takeAll key node
  | none => return .default

/-- The text that configures the settings. -/
def text (settings : Settings) : String :=
  let line := fun (name value : String) =>
    name ++ " = " ++ String.ofList (Toml.Written.value value.toList) ++ "\n"
  "[registry]\n" ++ line "source_dir" settings.source ++ line "output_file" settings.output ++
    line "namespace" settings.naming.package ++ line "collection" settings.naming.collection

end Settings

end RecordRegistry
