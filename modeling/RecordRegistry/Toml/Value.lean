/-
# Values in a configuration

Arrays may extend over several lines and have a comma after the last element; tables between
braces may not.  Both may stand in each other, but not deeper than a fixed limit.
-/

import RecordRegistry.Toml.Moment
import RecordRegistry.Toml.Node

namespace RecordRegistry.Toml

/-- A key has fewer names than this, and values are nested less deeply. -/
def nestingLimit : Nat := 80

/-- Characters of a name that needs no quotes. -/
def isBare (character : Char) : Bool :=
  character.isAlphanum || character == '_' || character == '-'

/-- Names and the value of the last of them in the table that those before it lead to. -/
structure Assignment where
  path : List Key
  key : Key
  node : Node

namespace Reader

/-- One name of a key. -/
def simpleKey : Reader Key := do
  blanks
  let name := do
    match ← peek? with
    | some '\x22' => basicText
    | some '\x27' => literalText
    | _ => String.ofList <$> chunk isBare
  let (text, span) ← spanned name
  blanks
  return ⟨text, span⟩

/-- The names of a key, of which there is at least one. -/
def key : Reader (List Key × Key) :=
  refined
    (named .key do
      let first ← simpleKey
      let more ← repeated (optional? (do require ['.']; simpleKey))
      return (first, more))
    fun (first, more) =>
      if nestingLimit ≤ more.length + 1 then .error .tooDeep
      else .ok ((first :: more).dropLast, more.getLastD first)

/-- A key, an equals sign and a value, with blanks around the value. -/
def assignment (value : Reader Node) : Reader Assignment := do
  let (path, key) ← key
  committed do
    wanting [.mark ".", .mark "="] (require ['='])
    blanks
    return ⟨path, key, ← value⟩

/-- The elements of an array and the bracket after them. -/
def array (value : Reader Node) : Reader (List Node) := do
  require ['[']
  committed do
    let elements ← separated (require [',']) do
      padding
      let element ← value
      padding
      return element
    unless elements.isEmpty do discard (accept [','])
    padding
    wanting [.mark "]"] (named .array (require [']']))
    return elements

/-- The members of a table that assignments make. -/
def inlineMembers (assignments : List Assignment) : Except Cause Members :=
  let assign := fun (assignment : Assignment) =>
    Edit.assign .inlineKey assignment.path assignment.key assignment.node .unsaid .inline
  Prod.snd <$> (assignments.forM assign).run []

/-- The members of a table between braces. -/
def inlineTable (value : Reader Node) : Reader Members := do
  require ['\x7b']
  committed do
    let member := do
      let read ← assignment value
      blanks
      return read
    let members ← refined
      (do
        let assignments ← separated (require [',']) member
        blanks
        return assignments)
      inlineMembers
    wanting [.mark "\x7d"] (named .inlineTable (require ['\x7d']))
    return members

/-- A number or a moment. -/
def quantity : Reader Scalar :=
  either (do moment; return .moment) (either (.float <$> float) (.integer <$> integer))

/-- A reader for what, if it does not apply, was perhaps meant to be a text. -/
def orText {α : Type} (reader : Reader α) : Reader α :=
  wanting [.mark "\x22", .mark "\x27"] (named .string reader)

/-- A value without parts; its first character decides about its kind. -/
def scalar : Reader Scalar := do
  match ← peek? with
  | none => fail
  | some '\x22' | some '\x27' => .text <$> text
  | some '_' => .integer <$> wanting [.leadingDigit] integer
  | some '.' => .float <$> wanting [.leadingDigit] float
  | some 't' => orText (do committed (require "true".toList); return .boolean true)
  | some 'f' => orText (do committed (require "false".toList); return .boolean false)
  | some 'i' | some 'n' => .float <$> orText special
  | some character =>
    if isSign character || isDecimalDigit character then quantity else orText fail

/-- A value. What is nested in it is read by the reader, which there has to be. -/
def valueWith (nested? : Option (Reader Node)) : Reader Node := do
  match ← peek?, nested? with
  | some '[', some nested =>
    let (elements, span) ← spanned (array nested)
    return .array span elements
  | some '\x7b', some nested =>
    let (members, span) ← spanned (inlineTable nested)
    return .table (some span) .inline members
  | some '[', none | some '\x7b', none => committed (failAt (← get).offset (some .tooDeep))
  | _, _ =>
    let (value, span) ← spanned scalar
    return .scalar span value

/-- A value with at most the given number of brackets and braces around any part of it. -/
def value : Nat → Reader Node
  | 0 => valueWith none
  | depth + 1 => valueWith (some (value depth))

end Reader

end RecordRegistry.Toml
