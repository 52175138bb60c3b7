/-
# Rendering a registry

A registry is a file with one function, whose only expression lists an instance of every selected
entry.  Names, modules and the namespace come as text, which has to read as a name or a path; text
that does not is refused before anything is written.
-/

import RecordRegistry.Entry
import RecordRegistry.Syntax.File
import RecordRegistry.Token.Spacing

namespace RecordRegistry

/-- The names that a registry uses for itself. -/
structure Naming where
  /-- The path from the registry to the package of the entries, which may be empty. -/
  package : String
  /-- The name of the function that lists the entries. -/
  collection : String
  deriving DecidableEq, Repr

namespace Naming

/-- The names that are used if none are given. -/
def default : Naming := ⟨"super", "models"⟩

end Naming

/-- A text that is not what a registry needs. -/
inductive RenderError
  | identifier (text : String)
  | modulePath (text : String)
  | moduleName (text : String)
  | typeName (text : String)
  deriving DecidableEq, Repr

namespace RenderError

/-- The words for an error. -/
def message : RenderError → String
  | identifier text => "`" ++ text ++ "` is not a valid identifier"
  | modulePath text => "`" ++ text ++ "` is not a valid module path"
  | moduleName text => "`" ++ text ++ "` is not a valid module name"
  | typeName text => "`" ++ text ++ "` is not a valid type name"

end RenderError

namespace Rendering

open Layout (Document Break Filling)

/-- A name as a segment without arguments. -/
def segment (name : Name) : Segment := ⟨name, .none⟩

/-- The path that a namespace stands for. -/
def namespacePath (text : String) : Except RenderError Path :=
  if text = "" then .ok ⟨false, []⟩ else (Path.parse text).mapError fun _ => .modulePath text

/-- The name of the module that a file declares. A reserved word becomes a raw name. -/
def moduleName (text : String) : Except RenderError Name :=
  match Name.parse text with
  | .ok name => .ok name
  | .error _ => (Name.parse ("r#" ++ text)).mapError fun _ => .moduleName text

/-- The name of the type of an entry. -/
def typeName (text : String) : Except RenderError Name :=
  (Name.parse text).mapError fun _ => .typeName text

/-- The path of the type of an entry, as the registry names it. -/
def entryPath (package : String) (entry : Entry) : Except RenderError Path := do
  let path ← namespacePath package
  let modules ← entry.module.toList.mapM moduleName
  let name ← typeName entry.name
  return { path with segments := path.segments ++ (modules ++ [name]).map segment }

/-- A mark of one character. -/
def mark (character : Char) : TokenTree := .mark character false Position.start

/-- A name as a token. -/
def word (spelling : String) : TokenTree := .name spelling Position.start

/-- A path from the root of all names, as tokens. -/
def rootPath (names : List String) : List TokenTree :=
  names.flatMap fun name => Path.separator ++ [word name]

/-- Tokens between parentheses. -/
def parenthesized (tokens : List TokenTree) : TokenTree :=
  .group .parenthesis Position.start Position.start tokens

/-- The tokens that make an instance of a type. -/
def instanceTokens (path : Path) : List TokenTree :=
  rootPath ["std", "boxed", "Box", "new"] ++
    [parenthesized
      (mark '<' :: path.tokens ++ word "as" :: rootPath ["core", "default", "Default"] ++
        mark '>' :: rootPath ["default"] ++ [parenthesized []])]

/-- The tokens between the brackets of a registry. -/
def listTokens (paths : List Path) : List TokenTree :=
  [mark ','].intercalate (paths.map instanceTokens)

/-- The comment lines at the front of a registry. -/
def header : List String :=
  ["//! Auto-generated model registry. Do not edit manually.",
    "//!",
    "//! Regenerate with `modelreg generate` or from `build.rs`.",
    "//!",
    "//! Generated by modelreg-build.",
    "/// Zero-valued instances of every record type declared in this package,",
    "/// in declaration order."]

/-- Lines that each have to end. -/
def lines (texts : List String) : List Document :=
  texts.flatMap fun text => [.text text, .gap (.line 0)]

/-- The indent of what is nested. -/
def indent : Int := 4

/-- A type argument between angle brackets, on lines of its own if it does not fit. -/
def typeArgument (content : List Document) : List Document :=
  [.text "<",
    .box indent .consistent (.gap (.empty 0) :: content ++ [.gap (.trailingComma (-indent))]),
    .text ">"]

/-- The head of the function. -/
def signature (collection : Name) : List Document :=
  let any := typeArgument [.text "dyn ::std::any::Any"]
  let boxes := typeArgument (.text "::std::boxed::Box" :: any)
  [.text "pub fn ", .text collection.spelling, .text "()",
    .box (-indent) .consistent (.text " -> " :: .text "::std::vec::Vec" :: boxes),
    .text " \x7b"]

/-- The list of the instances, on lines of its own if it does not fit. -/
def list (tokens : List TokenTree) : List Document :=
  if tokens.isEmpty then []
  else
    [.box indent .consistent
      [.gap (.empty 0), .box 0 .inconsistent (Spacing.documents tokens),
        .gap (.empty (-indent))]]

/-- The whole registry. -/
def document (collection : Name) (paths : List Path) : Document :=
  let body := [.text "::std::vec![" ] ++ list (listTokens paths) ++ [.text "]"]
  .box 0 .consistent
    (lines header ++
      [.box indent .consistent
        (signature collection ++
          [.gap (.line 0), .box 0 .inconsistent body, .gap (.line (-indent))]),
        .text "\x7d", .gap (.line 0)])

end Rendering

/-- The text of the registry for the selected ones among some entries. Every name is checked, and
the first one that cannot be used is the error. -/
def renderRegistry (naming : Naming) (entries : List Entry) : Except RenderError String := do
  let collection ← (Name.parse naming.collection).mapError fun _ =>
    RenderError.identifier naming.collection
  let paths ← (entries.filter Entry.selected).mapM (Rendering.entryPath naming.package)
  return (Rendering.document collection paths).render

end RecordRegistry
