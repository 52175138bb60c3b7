/-
# Bytes and text

Text is stored as UTF-8.  Bytes that are not valid UTF-8 can still be shown: every longest
beginning of a character that is not completed, and every byte that cannot begin a character,
becomes one replacement character.
-/

namespace RecordRegistry

/-- A sequence of bytes, as a file or a file name holds it. -/
abbrev Bytes := List UInt8

namespace Utf8

/-- Whether a byte lies between two others. -/
def between (low high : UInt8) (byte : UInt8) : Bool := low ≤ byte && byte ≤ high

/-- Bytes that continue a character. -/
def isContinuation : UInt8 → Bool := between 0x80 0xbf

/-- How many bytes follow the first byte of a character, and which bytes may come second; none if
the byte cannot begin a character. -/
def lead? (byte : UInt8) : Option (Nat × (UInt8 → Bool)) :=
  if byte < 0x80 then some (0, isContinuation)
  else if between 0xc2 0xdf byte then some (1, isContinuation)
  else if byte = 0xe0 then some (2, between 0xa0 0xbf)
  else if byte = 0xed then some (2, between 0x80 0x9f)
  else if between 0xe1 0xef byte then some (2, isContinuation)
  else if byte = 0xf0 then some (3, between 0x90 0xbf)
  else if between 0xf1 0xf3 byte then some (3, isContinuation)
  else if byte = 0xf4 then some (3, between 0x80 0x8f)
  else none

/-- The number of bytes, up to the given count, that continue a character; the test is for the
first of them. -/
def continued (isSecond : UInt8 → Bool) : Nat → Bytes → Nat
  | count + 1, byte :: rest =>
    if isSecond byte then 1 + continued isContinuation count rest else 0
  | _, _ => 0

/-- The code point that a first byte and its continuation stand for. -/
def codePoint (first : UInt8) (more : Bytes) : Nat :=
  let lead := match more.length with
    | 0 => first.toNat
    | 1 => first.toNat % 0x20
    | 2 => first.toNat % 0x10
    | _ => first.toNat % 0x08
  more.foldl (fun value byte => 64 * value + byte.toNat % 64) lead

/-- A character, or the bytes that are none. -/
inductive Piece
  | character (value : Char)
  | invalid (bytes : Bytes)

namespace Piece

/-- The character of a piece, if it is one. -/
def character? : Piece → Option Char
  | character value => some value
  | invalid _ => none

/-- The character that shows a piece. -/
def shown : Piece → Char
  | character value => value
  | invalid _ => '\ufffd'

end Piece

/-- Cuts bytes into characters and longest sequences that are none, in at most `count` pieces. -/
def piecesUpTo : Nat → Bytes → List Piece
  | 0, _ => []
  | _, [] => []
  | count + 1, first :: rest =>
    match lead? first with
    | none => .invalid [first] :: piecesUpTo count rest
    | some (wanted, isSecond) =>
      let found := continued isSecond wanted rest
      let piece : Piece := if found = wanted then
          .character (Char.ofNat (codePoint first (rest.take wanted)))
        else .invalid (first :: rest.take found)
      piece :: piecesUpTo count (rest.drop found)

/-- Cuts bytes into characters and longest sequences that are none. -/
def pieces (bytes : Bytes) : List Piece := piecesUpTo bytes.length bytes

/-- The text that bytes spell, if all of them are characters. -/
def decode? (bytes : Bytes) : Option String :=
  ((pieces bytes).mapM Piece.character?).map String.ofList

/-- The text that bytes spell, with a replacement for what is no character. -/
def decodeLossy (bytes : Bytes) : String := String.ofList ((pieces bytes).map Piece.shown)

/-- The bytes that spell a text. -/
def encode (text : String) : Bytes := text.toList.flatMap String.utf8EncodeChar

end Utf8

/-- A text as the system hands it over, such as a word of a command line or the value of a variable.
Its bytes need not be those of a text. -/
structure SystemText where
  bytes : Bytes
  deriving DecidableEq, Repr

namespace SystemText

/-- A text, handed over by the system. -/
def ofString (text : String) : SystemText := ⟨Utf8.encode text⟩

instance : Coe String SystemText := ⟨ofString⟩

/-- The text, if it is one. -/
def text? (text : SystemText) : Option String := Utf8.decode? text.bytes

/-- The text as it is shown. -/
def shown (text : SystemText) : String := Utf8.decodeLossy text.bytes

end SystemText

end RecordRegistry
