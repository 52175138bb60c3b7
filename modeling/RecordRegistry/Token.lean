/-
# Token trees

Source text is read as a sequence of token trees: names, single punctuation marks, literals, and
groups between matching delimiters.  Each tree remembers where it starts, a group also where it
closes: lines and columns count from one, a column is one Unicode scalar value, and only a line feed
ends a line.  This module supplies the types and their measure; `Token.Lexer` makes trees from text.
-/

namespace RecordRegistry

/-- A place in a text: the line, and the column within that line, both counted from one. -/
structure Position where
  line : Nat
  column : Nat
  deriving DecidableEq, Repr, Inhabited

namespace Position

/-- The place of the first character of a text. -/
def start : Position := ⟨1, 1⟩

/-- The place of the character that follows `character`. -/
def next (position : Position) (character : Char) : Position :=
  if character = '\n' then ⟨position.line + 1, 1⟩ else ⟨position.line, position.column + 1⟩

/-- The place that follows a whole piece of text. -/
def advance (position : Position) (text : List Char) : Position :=
  text.foldl next position

@[simp] theorem advance_nil (position : Position) : position.advance [] = position := rfl

@[simp] theorem advance_cons (position : Position) (character : Char) (text : List Char) :
    position.advance (character :: text) = (position.next character).advance text := rfl

theorem advance_append (position : Position) (first second : List Char) :
    position.advance (first ++ second) = (position.advance first).advance second := by
  simp [advance]

end Position

/-- The three kinds of matching delimiters. -/
inductive Delimiter
  | parenthesis
  | bracket
  | brace
  deriving DecidableEq, Repr

namespace Delimiter

/-- The character that opens a group. -/
def opening : Delimiter → Char
  | parenthesis => '('
  | bracket => '['
  | brace => '\x7b'

/-- The character that closes a group. -/
def closing : Delimiter → Char
  | parenthesis => ')'
  | bracket => ']'
  | brace => '\x7d'

end Delimiter

/-- One token, or one delimited group of tokens. -/
inductive TokenTree
  /-- A name as it is spelled, with the marker of a raw name if it has one. -/
  | name (spelling : String) (position : Position)
  /-- One punctuation mark. It is joint when another mark follows without a gap. -/
  | mark (character : Char) (joint : Bool) (position : Position)
  /-- A number, character or string, as it is spelled. -/
  | literal (spelling : String) (position : Position)
  /-- The tokens between two matching delimiters. -/
  | group (delimiter : Delimiter) (opening closing : Position) (content : List TokenTree)
  deriving Repr

namespace TokenTree

/-- Where the token starts; for a group, where its opening delimiter stands. -/
def position : TokenTree → Position
  | name _ position => position
  | mark _ _ position => position
  | literal _ position => position
  | group _ opening _ _ => opening

mutual

/-- The number of tokens in a tree, a group counting one besides its content. -/
def size : TokenTree → Nat
  | group _ _ _ content => 1 + sizeAll content
  | _ => 1

/-- The number of tokens in a sequence of trees. -/
def sizeAll : List TokenTree → Nat
  | [] => 0
  | tree :: rest => tree.size + sizeAll rest

end

/-- The same mark, standing apart from what follows; other tokens are left alone. -/
def apart : TokenTree → TokenTree
  | mark character _ position => mark character false position
  | tree => tree

end TokenTree

end RecordRegistry
