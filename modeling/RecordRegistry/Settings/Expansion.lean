/-
# Variables in settings

A setting may refer to variables of the environment.  A reference starts with a dollar sign and an
opening brace and ends at the next closing brace; everything between is the name.  The value of a
variable is inserted as it is and not looked through again.
-/

import RecordRegistry.Text.Quoted

namespace RecordRegistry

/-- The variables of the environment, each with its value. -/
abbrev Environment := List (SystemText × SystemText)

namespace Environment

/-- The byte for an equals sign. -/
def equals : UInt8 := 0x3d

/-- A variable as one text, the name and the value joined by an equals sign. -/
def setting (entry : SystemText × SystemText) : Bytes :=
  entry.1.bytes ++ equals :: entry.2.bytes

/-- The value of a variable, if it is set: what follows the name and an equals sign in the first
setting that begins with these. The empty name is never set. -/
def get? (environment : Environment) (name : String) : Option SystemText :=
  if name = "" then none
  else environment.findSome? fun entry =>
    ((Utf8.encode name ++ [equals]).isPrefixOf? (setting entry)).map SystemText.mk

/-- The value of a variable, if it is set to a text. -/
def text? (environment : Environment) (name : String) : Option String :=
  (environment.get? name).bind SystemText.text?

end Environment

/-- Why a variable has no text. -/
inductive VariableFault
  | unset
  /-- The value is no text. -/
  | notText (value : Bytes)
  deriving DecidableEq, Repr

namespace VariableFault

/-- The words for a fault. -/
def message : VariableFault → String
  | unset => "environment variable not found"
  | notText value => "environment variable was not valid unicode: " ++ Quoted.bytes value

end VariableFault

/-- How the text of a variable is found. -/
abbrev Lookup := String → Except VariableFault String

/-- The text of a variable in an environment. -/
def Environment.lookup (environment : Environment) : Lookup := fun name =>
  match environment.get? name with
  | some value =>
    match value.text? with
    | some text => .ok text
    | none => .error (.notText value.bytes)
  | none => .error .unset

/-- Why a setting cannot be expanded. -/
inductive ExpansionError
  | unterminated (value : String)
  | noText (name : String) (fault : VariableFault)
  deriving DecidableEq, Repr

namespace ExpansionError

/-- The words for an error and its cause. -/
def message : ExpansionError → String
  | unterminated value => "Unterminated variable reference in " ++ Quoted.text value
  | noText name fault => "Environment variable " ++ name ++ " not set: " ++ fault.message

end ExpansionError

namespace Expansion

/-- A piece of a setting. -/
inductive Piece
  | literal (character : Char)
  | reference (name : String)
  /-- A reference that is not ended. -/
  | unterminated
  deriving DecidableEq, Repr

/-- Cuts a setting into pieces. Inside a reference, `name` holds its name so far, reversed. -/
def pieces : Option (List Char) → List Char → List Piece
  | none, '$' :: '\x7b' :: rest => pieces (some []) rest
  | none, character :: rest => .literal character :: pieces none rest
  | none, [] => []
  | some name, '\x7d' :: rest => .reference (String.ofList name.reverse) :: pieces none rest
  | some name, character :: rest => pieces (some (character :: name)) rest
  | some _, [] => [.unterminated]

/-- The text that a piece stands for. -/
def Piece.expand (lookup : Lookup) (value : String) : Piece → Except ExpansionError (List Char)
  | literal character => .ok [character]
  | reference name =>
    match lookup name with
    | .ok text => .ok text.toList
    | .error fault => .error (.noText name fault)
  | unterminated => .error (.unterminated value)

end Expansion

/-- A setting with the texts of the variables that it refers to. The first reference that has no
text or no end is the error. -/
def expandWith (lookup : Lookup) (value : String) : Except ExpansionError String := do
  let pieces ← (Expansion.pieces none value.toList).mapM (Expansion.Piece.expand lookup value)
  return String.ofList pieces.flatten

/-- A setting with the texts of the variables in an environment. -/
def expand (environment : Environment) (value : String) : Except ExpansionError String :=
  expandWith environment.lookup value

end RecordRegistry
