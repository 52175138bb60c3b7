/-
# JSON

Values and how they are written for people to read: two blanks for each level, every element and
member on a line of its own.
-/

namespace RecordRegistry

/-- A JSON value. The members of an object keep their order. -/
inductive JsonValue
  | null
  | boolean (value : Bool)
  | number (value : Nat)
  | text (value : String)
  | array (elements : List JsonValue)
  | object (members : List (String × JsonValue))

namespace JsonValue

/-- A character as it is written within a text. -/
def escaped (character : Char) : List Char :=
  if character = '\x22' || character = '\\' then ['\\', character]
  else if character = '\n' then ['\\', 'n']
  else if character = '\r' then ['\\', 'r']
  else if character = '\t' then ['\\', 't']
  else if character = '\x08' then ['\\', 'b']
  else if character = '\x0c' then ['\\', 'f']
  else if character.toNat < 0x20 then
    ['\\', 'u', '0', '0', Nat.digitChar (character.toNat / 16), Nat.digitChar (character.toNat % 16)]
  else [character]

/-- A text as it is written. -/
def quoted (text : String) : List Char := ['\x22'] ++ text.toList.flatMap escaped ++ ['\x22']

/-- The start of a line at a level. -/
def newLine (level : Nat) : List Char := '\n' :: List.replicate (2 * level) ' '

mutual

/-- A value as it is written at a level. -/
def written (level : Nat) : JsonValue → List Char
  | null => "null".toList
  | boolean true => "true".toList
  | boolean false => "false".toList
  | number value => (toString value).toList
  | text value => quoted value
  | array [] => ['[', ']']
  | array (first :: rest) =>
    ['['] ++ newLine (level + 1) ++ written (level + 1) first ++
      moreElements (level + 1) rest ++ newLine level ++ [']']
  | object [] => ['\x7b', '\x7d']
  | object ((name, value) :: rest) =>
    ['\x7b'] ++ newLine (level + 1) ++ quoted name ++ [':', ' '] ++ written (level + 1) value ++
      moreMembers (level + 1) rest ++ newLine level ++ ['\x7d']

/-- The elements after the first one of an array. -/
def moreElements (level : Nat) : List JsonValue → List Char
  | [] => []
  | first :: rest => [','] ++ newLine level ++ written level first ++ moreElements level rest

/-- The members after the first one of an object. -/
def moreMembers (level : Nat) : List (String × JsonValue) → List Char
  | [] => []
  | (name, value) :: rest =>
    [','] ++ newLine level ++ quoted name ++ [':', ' '] ++ written level value ++
      moreMembers level rest

end

/-- A value as it is written. -/
def render (value : JsonValue) : String := String.ofList (written 0 value)

/-- A text, or null if there is none. -/
def ofText? (text? : Option String) : JsonValue :=
  match text? with
  | some value => text value
  | none => null

/-- An array of texts. -/
def ofTexts (texts : List String) : JsonValue := array (texts.map text)

end JsonValue

end RecordRegistry
