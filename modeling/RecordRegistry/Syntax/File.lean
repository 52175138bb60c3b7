/-
# Files

The grammar as a whole, and the reading of a text as a file, as a single item, as a name or as a
path.  A text is cut into token trees first; the nesting of the grammar is bounded by the number
of tokens, because every construct takes at least one token for a fixed number of productions.
-/

import RecordRegistry.Syntax.Item
import RecordRegistry.Token.Lexer

namespace RecordRegistry

namespace Parser

/-- The grammar whose productions refer to each other at most the given number of times. A
production that is referred to is made when it reads a stream, so that depth costs nothing. -/
def grammar : Nat → Grammar
  | 0 => .exhausted
  | depth + 1 =>
    { typeExpression := fun plus stream => typeExpression (grammar depth) plus stream
      bound := fun rules stream => bound (grammar depth) rules stream
      expression := fun structs stream => expression (grammar depth) structs stream
      operand := fun structs stream => operand (grammar depth) structs stream
      operators := fun first structs weakest stream =>
        operators (grammar depth) first structs weakest stream
      bounded := fun stream => bounded (grammar depth) stream
      pattern := fun stream => pattern (grammar depth) stream
      statements := fun stream => statements (grammar depth) stream
      item := fun stream => item (grammar depth) stream
      importTree := fun rooted stream => importTree (grammar depth) rooted stream }

/-- The grammar for a sequence of token trees. -/
def grammarFor (trees : List TokenTree) : Grammar :=
  grammar (8 * TokenTree.sizeAll trees + 16)

/-- The scope of a whole text. An error at its end is reported at its start. -/
def wholeText : Scope := ⟨Position.start, none⟩

/-- Reads a whole text with a parser that is given the grammar. -/
def parseText {α : Type} (parser : Grammar → Parser α) (text : List Char) :
    Except SyntaxError (α × List Item) :=
  match Lexer.tokenTrees text with
  | .error position => .error ⟨position, false, .unreadable⟩
  | .ok trees => (parser (grammarFor trees)).runWithin wholeText trees

end Parser

/-- The text of a file without what only the system looks at: a byte-order mark, and a first line
that names an interpreter. A first line that opens an attribute is kept. -/
def withoutInterpreter (text : List Char) : List Char :=
  let text := match text with
    | '\ufeff' :: rest => rest
    | _ => text
  match text with
  | '#' :: '!' :: rest =>
    if (Lexer.skipBlanks rest).head? = some '[' then text else rest.dropWhile (· != '\n')
  | _ => text

namespace SourceFile

/-- Reads a text as a file. -/
def parse (text : String) : Except SyntaxError SourceFile := do
  let parser := fun grammar => do
    Parser.innerAttributes grammar
    let inAttributes := (← get).found
    let items ← Parser.untilEnd do
      Parser.outerAttributes grammar
      grammar.item
    return SourceFile.mk inAttributes items
  return (← Parser.parseText parser (withoutInterpreter text.toList)).1

end SourceFile

namespace Item

/-- Reads a text as exactly one item. -/
def parse (text : String) : Except SyntaxError Item := do
  let parser := fun grammar => do
    Parser.outerAttributes grammar
    grammar.item
  return (← Parser.parseText parser text.toList).1

end Item

namespace Name

/-- Reads a text as one identifier. -/
def parse (text : String) : Except SyntaxError Name :=
  Prod.fst <$> Parser.parseText (fun _ => Parser.identifier) text.toList

end Name

namespace Path

/-- Reads a text as a path, which may have arguments without colons before them. -/
def parse (text : String) : Except SyntaxError Path :=
  Prod.fst <$> Parser.parseText (fun grammar => Parser.path grammar false) text.toList

end Path

end RecordRegistry
