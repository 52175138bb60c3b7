/-
# Values and tables of a configuration

A table is a list of members in the order in which their keys first occur.  How a table came to be
decides what may be added to it later: a table that a header or a brace has opened cannot be
reached by a dotted key, and a table that dotted keys have made cannot be opened by a header.
-/

import RecordRegistry.Decimal.Binary
import RecordRegistry.Toml.Error

namespace RecordRegistry.Toml

/-- A name in a table, and where it was written. -/
structure Key where
  text : String
  span : Span
  deriving DecidableEq, Repr

/-- How a table came to be. -/
inductive TableKind
  /-- Opened by a header of its own, or the document itself. -/
  | opened
  /-- Named by the header of a table inside it. -/
  | implied
  /-- Named by a key before a point. -/
  | dotted
  /-- Written between braces. -/
  | inline
  deriving DecidableEq, Repr

/-- A value that has no parts. -/
inductive Scalar
  | text (value : String)
  | integer (value : Int)
  | float (value : Binary)
  | boolean (value : Bool)
  | moment
  deriving DecidableEq, Repr

/-- What a key stands for. -/
inductive Node
  | scalar (span : Span) (value : Scalar)
  | array (span : Span) (elements : List Node)
  | table (span : Option Span) (kind : TableKind) (members : List (Key × Node))
  /-- Tables that share one header. -/
  | tables (elements : List Node)
  deriving Repr

/-- The members of a table in the order of their keys. -/
abbrev Members := List (Key × Node)

namespace Scalar

/-- The name of the kind of a value. -/
def kindText : Scalar → String
  | text _ => "string"
  | integer _ => "integer"
  | float _ => "float"
  | boolean _ => "boolean"
  | moment => "datetime"

end Scalar

namespace Node

/-- Where a node was written, if it was written in one place. -/
def span? : Node → Option Span
  | scalar span _ => some span
  | array span _ => some span
  | table span _ _ => span
  | tables elements =>
    match elements.head?, elements.getLast? with
    | some (table (some first) _ _), some (table (some last) _ _) => some ⟨first.start, last.stop⟩
    | _, _ => none

end Node

namespace Members

/-- The value of a key. -/
def find? (members : Members) (key : String) : Option Node :=
  (List.find? (fun member => member.1.text = key) members).map Prod.snd

/-- The members with another value for a key that is there. -/
def replace (members : Members) (key : String) (node : Node) : Members :=
  members.map fun member => if member.1.text = key then (member.1, node) else member

/-- The members with a key that is not there yet. -/
def add (members : Members) (key : Key) (node : Node) : Members := members ++ [(key, node)]

/-- The members without a key. -/
def remove (members : Members) (key : String) : Members :=
  members.filter fun member => member.1.text != key

end Members

/-- How a path leads into a table. -/
inductive Route
  /-- The names before the last one in a header. -/
  | header
  /-- The names before the last one in a key of the document. -/
  | dottedKey
  /-- The names before the last one in a key between braces. -/
  | inlineKey
  deriving DecidableEq, Repr

namespace Route

/-- The kind of the tables that a route makes where there are none. -/
def made : Route → TableKind
  | header => .implied
  | dottedKey => .dotted
  | inlineKey => .dotted

/-- Whether a route may go through a table; if not, why. -/
def refusal? (route : Route) (path : List String) (key : String) : TableKind → Option Cause
  | .opened => if route = .header then none else some (.duplicateKey key .unsaid)
  | .inline =>
    if route = .inlineKey then some (.duplicateKey key .unsaid)
    else some (.noTable path "inline table")
  | .implied => none
  | .dotted => none

end Route

/-- A change of a table that may be refused and yields a value. -/
abbrev Edit := StateT Members (Except Cause)

namespace Edit

/-- Applies a change to the table to which a path leads, and makes the tables on the way that are
missing. `before` is the path to the table from which the path starts. -/
def within {α : Type} (route : Route) (change : TableKind → Edit α) (before : List String) :
    List Key → TableKind → Edit α
  | [], kind => change kind
  | key :: path, _ => do
    let before := before ++ [key.text]
    let inner := within route change before path
    let members ← get
    match members.find? key.text with
    | none =>
      let (value, content) ← (inner route.made).run []
      set (members.add key (.table none route.made content))
      return value
    | some (.table span kind content) =>
      match route.refusal? before key.text kind with
      | some cause => throw cause
      | none =>
        let (value, content) ← (inner kind).run content
        set (members.replace key.text (.table span kind content))
        return value
    | some (.tables elements) =>
      match elements.getLast? with
      | some (.table span kind content) =>
        let (value, content) ← (inner kind).run content
        set (members.replace key.text (.tables (elements.dropLast ++ [.table span kind content])))
        return value
      | _ => throw (.noTable before "array")
    | some (.array _ _) => throw (.noTable before "array")
    | some (.scalar _ value) => throw (.noTable before value.kindText)

/-- Gives a new key its value. Keys with a point before them have to come into a table that such
keys make, and others must not. `occurrence` says where the key would occur twice. -/
def add (isDotted : Bool) (key : Key) (node : Node) (occurrence : Occurrence) (kind : TableKind) :
    Edit Unit := do
  let members ← get
  if isDotted != decide (kind = .dotted) then throw (.duplicateKey key.text .unsaid)
  if (members.find? key.text).isSome then throw (.duplicateKey key.text occurrence)
  set (members.add key node)

/-- Gives the last name of a key its value, in the table that the names before it lead to. -/
def assign (route : Route) (path : List Key) (key : Key) (node : Node) (occurrence : Occurrence)
    (kind : TableKind) : Edit Unit :=
  within route (add (!path.isEmpty) key node occurrence) [] path kind

end Edit

end RecordRegistry.Toml
