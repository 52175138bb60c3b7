/-
# From text to token trees

The whole text becomes token trees before any of it is parsed, so one bad character or one
delimiter without its partner fails the text wherever it stands.  `Lexer.lexemes` cuts the text
into tokens and delimiters, `Lexer.nest` matches the delimiters; of two failures the earlier one
counts.  Documentation comments turn into attributes here.
-/

import RecordRegistry.Token
import RecordRegistry.Token.Comment
import RecordRegistry.Token.Literal

namespace RecordRegistry.Lexer

/-- A text that remains to be read, with the place where it starts. -/
structure Cursor where
  rest : List Char
  position : Position

/-- Moves a cursor over the given number of characters. -/
def Cursor.advance (cursor : Cursor) (length : Nat) : Cursor :=
  ⟨cursor.rest.drop length, cursor.position.advance (cursor.rest.take length)⟩

/-- The given number of characters at a cursor. -/
def Cursor.text (cursor : Cursor) (length : Nat) : String :=
  String.ofList (cursor.rest.take length)

/-- The punctuation marks. -/
def marks : List Char :=
  ['~', '!', '@', '#', '$', '%', '^', '&', '*', '-', '=', '+', '|', ';', ':', ',', '<', '.', '>',
    '/', '?', '\x27']

/-- Whether a punctuation mark stands at the front. The start of a comment is none. -/
def startsWithMark : List Char → Bool
  | '/' :: '/' :: _ => false
  | '/' :: '*' :: _ => false
  | character :: _ => marks.contains character
  | [] => false

/-- The names that cannot be written as raw names. -/
def neverRaw : List (List Char) :=
  [['_'], ['s', 'u', 'p', 'e', 'r'], ['s', 'e', 'l', 'f'], ['S', 'e', 'l', 'f'],
    ['c', 'r', 'a', 't', 'e']]

/-- The length of the name at the front with the marker of a raw name, zero if there is none. The
names that cannot be raw are refused. -/
def nameLength : List Char → Nat
  | 'r' :: '#' :: rest =>
    let length := identifierLength rest
    if length = 0 || neverRaw.contains (rest.take length) then 0 else length + 2
  | text => identifierLength text

/-- Whether the text begins like a quoted literal, so that its letters are no name. -/
def startsLikeQuoted (text : List Char) : Bool :=
  ["r\x22", "r#\x22", "r##", "b\x22", "b\x27", "br\x22", "br#", "c\x22", "cr\x22", "cr#"].any
    fun start => start.toList.isPrefixOf text

/-- Whether the quote at the front begins a label or lifetime, given the text after the quote:
a name has to follow, and no second quote. -/
def startsLifetime (rest : List Char) : Bool :=
  let length := nameLength rest
  length ≠ 0 &&
    match rest.drop length with
    | '\x27' :: _ => false
    | '#' :: _ => ['r', '#'].isPrefixOf rest
    | _ => true

/-- The token other than a delimiter at a cursor, and its length. -/
def leaf? (cursor : Cursor) : Option (TokenTree × Nat) :=
  match literalLength? cursor.rest with
  | some length => some (.literal (cursor.text length) cursor.position, length)
  | none =>
    match cursor.rest with
    | [] => none
    | character :: rest =>
      if startsWithMark (character :: rest) then
        if character = '\x27' then
          if startsLifetime rest then some (.mark character true cursor.position, 1) else none
        else some (.mark character (startsWithMark rest) cursor.position, 1)
      else if startsLikeQuoted (character :: rest) then none
      else
        match nameLength (character :: rest) with
        | 0 => none
        | length => some (.name (cursor.text length) cursor.position, length)

/-- A piece of text: a token, or one delimiter. -/
inductive Lexeme
  | leaf (tree : TokenTree)
  | opening (delimiter : Delimiter) (position : Position)
  | closing (delimiter : Delimiter) (position : Position)

/-- The delimiter that a character opens or closes. -/
def delimiter? : Char → Option (Delimiter × Bool)
  | '(' => some (.parenthesis, true)
  | '[' => some (.bracket, true)
  | '\x7b' => some (.brace, true)
  | ')' => some (.parenthesis, false)
  | ']' => some (.bracket, false)
  | '\x7d' => some (.brace, false)
  | _ => none

/-- The attribute that a documentation comment stands for. -/
def documentationTokens (content : List Char) (inner : Bool) (first last : Position) :
    List TokenTree :=
  let bracketed := TokenTree.group .bracket first last
    [.name "doc" first, .mark '=' false first, .literal (String.ofList content).quote first]
  if inner then [.mark '#' false first, .mark '!' false first, bracketed]
  else [.mark '#' false first, bracketed]

/-- Reads a text in at most `count` steps: the lexemes, and where the text could not be read
on. A step takes one blank, comment, token or delimiter. -/
def lexemesUpTo : Nat → Cursor → List Lexeme × Option Position
  | 0, cursor => ([], some cursor.position)
  | count + 1, cursor =>
    match blankLength? cursor.rest with
    | some length => lexemesUpTo count (cursor.advance length)
    | none =>
      match documentation? cursor.rest with
      | some (length, content, inner) =>
        if hasBareReturn content then ([], some cursor.position)
        else
          let last := (cursor.advance (length - 1)).position
          let (lexemes, failure) := lexemesUpTo count (cursor.advance length)
          ((documentationTokens content inner cursor.position last).map .leaf ++ lexemes, failure)
      | none =>
        match cursor.rest with
        | [] => ([], none)
        | character :: _ =>
          match delimiter? character with
          | some (delimiter, opens) =>
            let (lexemes, failure) := lexemesUpTo count (cursor.advance 1)
            let lexeme := if opens then Lexeme.opening delimiter cursor.position
              else .closing delimiter cursor.position
            (lexeme :: lexemes, failure)
          | none =>
            match leaf? cursor with
            | some (tree, length) =>
              let (lexemes, failure) := lexemesUpTo count (cursor.advance length)
              (.leaf tree :: lexemes, failure)
            | none => ([], some cursor.position)

/-- Cuts a text into lexemes. Each step takes at least one character, so the length of the text
bounds the steps. -/
def lexemes (cursor : Cursor) : List Lexeme × Option Position :=
  lexemesUpTo (cursor.rest.length + 1) cursor

/-- A group that has been opened: its delimiter, where it opened, and the trees before it in
reverse order. -/
structure OpenGroup where
  delimiter : Delimiter
  opening : Position
  before : List TokenTree

/-- Matches the delimiters of a sequence of lexemes. `trees` holds, in reverse order, the trees
of the innermost open group. Fails at a closing delimiter without its partner, else where the
text could not be read on, else at the innermost group left open. -/
def nest (failure : Option Position) :
    List OpenGroup → List TokenTree → List Lexeme → Except Position (List TokenTree)
  | stack, trees, [] =>
    match failure, stack with
    | some position, _ => .error position
    | none, group :: _ => .error group.opening
    | none, [] => .ok trees.reverse
  | stack, trees, .leaf tree :: rest => nest failure stack (tree :: trees) rest
  | stack, trees, .opening delimiter position :: rest =>
    nest failure (⟨delimiter, position, trees⟩ :: stack) [] rest
  | [], _, .closing _ position :: _ => .error position
  | group :: stack, trees, .closing delimiter position :: rest =>
    if group.delimiter = delimiter then
      nest failure stack (.group delimiter group.opening position trees.reverse :: group.before) rest
    else .error position

/-- Reads a text as token trees, or tells where it cannot be read. A byte-order mark at its
front is dropped and counts as a character. -/
def tokenTrees (text : List Char) : Except Position (List TokenTree) :=
  let cursor : Cursor :=
    match text with
    | '\ufeff' :: rest => ⟨rest, Position.start.next '\ufeff'⟩
    | _ => ⟨text, Position.start⟩
  let (lexemes, failure) := lexemes cursor
  nest failure [] [] lexemes

end RecordRegistry.Lexer
