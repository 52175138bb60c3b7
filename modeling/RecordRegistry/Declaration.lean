/-
# Type declarations

The types that a file declares at its top level, with the shape of each.  A record is a struct
without parameters whose fields have names, or that has no fields; only records can be
instantiated without further knowledge.  Declarations inside functions, modules or expressions
are not looked at.
-/

import RecordRegistry.Syntax.Tree

namespace RecordRegistry

/-- The shape of a type declaration. -/
inductive Shape
  /-- A struct without parameters and with named fields or none. -/
  | record
  | alias
  /-- A trait or an alias for bounds. -/
  | interface
  | other
  deriving DecidableEq, Repr

namespace Shape

/-- The word for a shape. -/
def text : Shape → String
  | .record => "record"
  | .alias => "alias"
  | .interface => "interface"
  | .other => "other"

end Shape

namespace Item

/-- The shape of the type that an item declares, if it declares one. -/
def shape? : Item → Option Shape
  | .struct _ 0 .named => some .record
  | .struct _ 0 .unit => some .record
  | .struct _ _ _ => some .other
  | .enum _ => some .other
  | .union _ => some .other
  | .alias _ => some .alias
  | .trait _ => some .interface
  | .traitAlias _ => some .interface
  | .function _ _ => none
  | .other => none

/-- The type that an item declares with its shape, if it declares one. -/
def declared? (item : Item) : Option (Name × Shape) :=
  match item with
  | .struct name _ _ | .enum name | .union name | .alias name | .trait name | .traitAlias name =>
    item.shape?.map (name, ·)
  | .function _ _ | .other => none

end Item

/-- Where a declaration was found: the name of its file, and the place of its name there. -/
structure SourcePosition where
  file : String
  position : Position
  deriving DecidableEq, Repr

namespace SourcePosition

/-- A position as it is shown. -/
def text (place : SourcePosition) : String :=
  place.file ++ ":" ++ toString place.position.line ++ ":" ++ toString place.position.column

end SourcePosition

/-- A named type declaration. -/
structure Declaration where
  name : String
  /-- The module of the declaring file; none if the file is the root of its package. -/
  module : Option String
  shape : Shape
  position : SourcePosition
  deriving DecidableEq, Repr

/-- The type declarations of a file of the given name and module, in the order of the text. What
stands inside the attributes of the file comes first. -/
def SourceFile.declarations (source : SourceFile) (file : String) (module : Option String) :
    List Declaration :=
  (source.inAttributes ++ source.items).filterMap fun item =>
    item.declared?.map fun (name, shape) => ⟨name.spelling, module, shape, ⟨file, name.position⟩⟩

end RecordRegistry
