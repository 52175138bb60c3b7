/-
# Reading a registry back

The types that a registry lists are read from its text: the last statement of the function with
the given name has to use a textual definition on calls whose first argument is a call of a
function that starts from a bracketed type.  Any other text is no registry.
-/

import RecordRegistry.Syntax.File

namespace RecordRegistry

namespace Path

/-- The names of a path with the colons between them. -/
def plainText (path : Path) : String :=
  (if path.rooted then "::" else "") ++
    "::".intercalate (path.segments.map fun segment => segment.name.spelling)

end Path

namespace Expression

/-- The path of the type that an element of a registry is an instance of. -/
def instancePath? : Expression → Option String
  | .call _ (.call (.path (some (.path _ type)) _) _ :: _) =>
    if type.segments.any fun segment => segment.arguments matches .parenthesized then none
    else some type.plainText
  | _ => none

end Expression

namespace SourceFile

/-- The statements of the first function with the given name. -/
def functionBody? (source : SourceFile) (name : String) : Option (List Statement) :=
  source.items.findSome? fun item =>
    match item with
    | .function declared body => if declared.spelling = name then some body else none
    | _ => none

end SourceFile

/-- The types that a registry lists, in order; none if the text is no registry. -/
def readRegistry (source collection : String) : Option (List String) := do
  let file ← (SourceFile.parse source).toOption
  let body ← file.functionBody? collection
  let .invocation content ← body.getLast? | none
  let grammar := Parser.grammarFor content
  let elements ← ((Parser.commaList (grammar.expression true)).runWithin Parser.wholeText content).toOption
  elements.1.mapM Expression.instancePath?

end RecordRegistry
