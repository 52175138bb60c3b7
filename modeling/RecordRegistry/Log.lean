/-
# Log records

What is noted while the program works, and which of it is shown.  A filter is a list of directives,
each of which sets the most detailed level that is shown for targets that begin with a name; of
those that fit a target the longest one decides.  After a slash a filter may name a pattern, and
then only messages with a piece that the pattern fits are shown.
-/

import RecordRegistry.Log.Pattern.Text
import RecordRegistry.Terminal.Style

namespace RecordRegistry

/-- The levels of log records, from the gravest to the most detailed. -/
inductive LogLevel
  | error
  | warn
  | info
  | debug
  | trace
  deriving DecidableEq, Repr

namespace LogLevel

/-- All levels, from the gravest on. -/
def all : List LogLevel := [error, warn, info, debug, trace]

/-- The number of levels up to a level. -/
def detail : LogLevel → Nat
  | error => 1
  | warn => 2
  | info => 3
  | debug => 4
  | trace => 5

/-- The word for a level. -/
def text : LogLevel → String
  | error => "ERROR"
  | warn => "WARN"
  | info => "INFO"
  | debug => "DEBUG"
  | trace => "TRACE"

/-- The numbers of the style in which a level is shown. -/
def style : LogLevel → List String
  | error => ["1", "31"]
  | warn => ["33"]
  | info => ["32"]
  | debug => ["34"]
  | trace => ["36"]

end LogLevel

/-- A note about the work. -/
structure LogRecord where
  level : LogLevel
  /-- The part of the program that the note comes from. -/
  target : String
  message : String
  deriving DecidableEq, Repr

namespace LogRecord

/-- The word for the level, filled up to five characters. -/
def levelText (record : LogRecord) : String :=
  record.level.text ++ String.ofList (List.replicate (5 - record.level.text.length) ' ')

/-- A message whose further lines are indented. -/
def indented (message : String) : String :=
  String.ofList (message.toList.flatMap fun character =>
    if character = '\n' then ['\n', ' ', ' ', ' ', ' '] else [character])

/-- A record as it is shown, with the end of its line. -/
def shown (coloured : Bool) (record : LogRecord) : String :=
  let frame := fun (text : String) =>
    if coloured then Style.code "90" ++ text ++ Style.reset else text
  let level :=
    if coloured then String.join (record.level.style.map Style.code) ++ record.levelText ++ Style.reset
    else record.levelText
  frame "[" ++ level ++ " " ++ record.target ++ frame "]" ++ " " ++ indented record.message ++ "\n"

end LogRecord

/-- How much is shown for targets that begin with a name, or for all if there is no name. -/
structure LogDirective where
  name : Option String
  /-- The number of levels that are shown, from the gravest on. -/
  detail : Nat
  deriving DecidableEq, Repr

/-- Which records are shown. -/
structure LogFilter where
  directives : List LogDirective
  /-- What a message is searched for, if there is such a pattern. -/
  pattern : Option SearchPattern
  deriving DecidableEq, Repr

namespace LogFilter

/-- Texts around every occurrence of a character. -/
def cut (separator : Char) (text : List Char) : List (List Char) := text.splitOn separator

/-- Whether a character is a blank at the ends of a directive. -/
def isBlank (character : Char) : Bool := character = ' ' || (9 ≤ character.toNat && character.toNat ≤ 13)

/-- A text without the blanks at its ends. -/
def stripped (text : List Char) : List Char :=
  ((text.dropWhile isBlank).reverse.dropWhile isBlank).reverse

/-- The number of levels that a word stands for, whatever its case. -/
def detail? (word : List Char) : Option Nat :=
  let upper := String.ofList (word.map Char.toUpper)
  if upper = "OFF" then some 0
  else (LogLevel.all.find? fun level => level.text = upper).map LogLevel.detail

/-- The number of all levels. -/
def fullDetail : Nat := LogLevel.trace.detail

/-- The directive that a text writes, or the part of it that is not understood. -/
def directive (text : List Char) : Except String LogDirective :=
  match cut '=' text with
  | [name] =>
    match detail? name with
    | some detail => .ok ⟨none, detail⟩
    | none => .ok ⟨some (String.ofList name), fullDetail⟩
  | [name, level] =>
    let level := stripped level
    if level = [] then .ok ⟨some (String.ofList name), fullDetail⟩
    else
      match detail? level with
      | some detail => .ok ⟨some (String.ofList name), detail⟩
      | none => .error ("invalid logging spec '" ++ String.ofList level ++ "'")
  | _ => .error ("invalid logging spec '" ++ String.ofList text ++ "'")

/-- Adds a directive in place of one with the same name. -/
def insert (directive : LogDirective) (directives : List LogDirective) : List LogDirective :=
  if directives.any fun other => other.name = directive.name then
    directives.map fun other => if other.name = directive.name then directive else other
  else directives ++ [directive]

/-- The directives that a text writes, and what is not understood in it. -/
def readLevels (text : List Char) : List LogDirective × List String :=
  let parts := ((cut ',' text).map stripped).filter (· ≠ [])
  let results := parts.map directive
  (results.foldl (fun found result =>
      match result with
      | .ok directive => insert directive found
      | .error _ => found) [],
    results.filterMap fun result =>
      match result with
      | .ok _ => none
      | .error problem => some problem)

/-- The filter that a text writes, and what is not understood in it. A text without directives
leaves only errors to be shown. -/
def parse (text : String) : LogFilter × List String :=
  let complete := fun (found : List LogDirective) =>
    if found = [] then [⟨none, LogLevel.error.detail⟩] else found
  match cut '/' text.toList with
  | [levels] =>
    let (found, problems) := readLevels levels
    (⟨complete found, none⟩, problems)
  | [levels, pattern] =>
    let (found, problems) := readLevels levels
    match SearchPattern.read (String.ofList pattern) with
    | .ok pattern => (⟨complete found, some pattern⟩, problems)
    | .error problem =>
      (⟨complete found, none⟩,
        problems ++ ["invalid regex filter - " ++ problem.text (String.ofList pattern)])
  | _ => (⟨complete [], none⟩, ["invalid logging spec '" ++ text ++ "' (too many '/'s)"])

/-- The directive that decides about a target: the longest one that fits, and the last of these. -/
def deciding? (filter : LogFilter) (target : String) : Option LogDirective :=
  let fitting := filter.directives.filter fun directive =>
    match directive.name with
    | some name => name.toList.isPrefixOf target.toList
    | none => true
  fitting.foldl (fun best directive =>
    let length := fun (directive : LogDirective) => (directive.name.getD "").utf8ByteSize
    match best with
    | some other => if length other ≤ length directive then some directive else best
    | none => some directive) none

/-- Whether a record is shown. -/
def shows (filter : LogFilter) (record : LogRecord) : Bool :=
  let fits := filter.pattern.all fun pattern => pattern.isIn record.message
  match filter.deciding? record.target with
  | some directive => record.level.detail ≤ directive.detail && fits
  | none => false

end LogFilter

/-- How records are shown. -/
structure LogStyle where
  filter : LogFilter
  coloured : Bool
  deriving DecidableEq, Repr

namespace LogStyle

/-- The lines for the records that are shown. -/
def lines (style : LogStyle) (records : List LogRecord) : String :=
  String.join ((records.filter style.filter.shows).map (LogRecord.shown style.coloured))

end LogStyle

end RecordRegistry
