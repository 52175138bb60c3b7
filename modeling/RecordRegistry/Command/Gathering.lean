/-
# Gathering options

The options of one command are gathered from the words of a command line.  An option whose value
stands in the next word is pending: its value is looked at only when the next option is, or when
the words end.  So an error in a value comes after the errors of the words up to there, and a word
that is no option at all comes before it.
-/

import RecordRegistry.Command.Similarity
import RecordRegistry.Command.UsageError
import RecordRegistry.Settings.Expansion

namespace RecordRegistry

/-- Why a command line asks for nothing to be done. -/
inductive Halt
  | help (command : CommandName) (long : Bool)
  | version
  /-- Nothing was given at all; help is shown, but as an error. -/
  | nothing
  | mistake (error : UsageError)
  deriving DecidableEq, Repr

/-- What a word can be by its first bytes. -/
inductive WordForm
  /-- Two dashes and nothing else. -/
  | dashes
  /-- The long name of an option as it is shown, and what follows the first equals sign. -/
  | long (name : String) (attached : Option SystemText)
  /-- What follows a single dash. -/
  | short (letters : List Utf8.Piece)
  | plain

namespace WordForm

/-- The byte for a dash. -/
def dash : UInt8 := 0x2d

/-- The form of a word. -/
def of (word : SystemText) : WordForm :=
  match word.bytes with
  | first :: second :: rest =>
    if first ≠ dash then plain
    else if second ≠ dash then short (Utf8.pieces (second :: rest))
    else if rest = [] then dashes
    else
      long (Utf8.decodeLossy (rest.takeWhile (· ≠ Environment.equals)))
        ((rest.dropWhile (· ≠ Environment.equals)).tail?.map SystemText.mk)
  | _ => plain

end WordForm

/-- The options of a command that have been gathered. -/
structure Gathered where
  command : CommandName
  /-- The options that have been accepted, each with its value; flags have none. -/
  given : List (CommandOption × SystemText)
  /-- An option that is not accepted yet, with its value if there is one already. -/
  pending : Option (CommandOption × Option SystemText)
  deriving DecidableEq, Repr

namespace Gathered

/-- Nothing has been gathered yet. -/
def start (command : CommandName) : Gathered := ⟨command, [], none⟩

/-- The value of an option, if it was given. -/
def value? (gathered : Gathered) (option : CommandOption) : Option SystemText :=
  gathered.given.lookup option

/-- Whether an option was given. -/
def has (gathered : Gathered) (option : CommandOption) : Bool := (gathered.value? option).isSome

/-- The options that have been given, also if they were not accepted. -/
def seen (gathered : Gathered) : List CommandOption :=
  gathered.given.map Prod.fst ++
    match gathered.pending with
    | some (option, some _) => [option]
    | _ => []

/-- A mistake whose report ends with the usage in general. -/
def mistaken (gathered : Gathered) (fault : UsageFault) (tip : Option UsageTip) : Halt :=
  .mistake ⟨fault, tip, some (.general gathered.command)⟩

/-- The usage that shows some options. -/
def usageOf (gathered : Gathered) (options : List CommandOption) : Usage :=
  ⟨gathered.command, options, options.any gathered.command.ownOptions.contains⟩

/-- Checks the value of an option: a path can be anything but empty, and what is no path has to be
a text. -/
def checkValue (command : CommandName) (option : CommandOption) (value : SystemText) :
    Except Halt Unit :=
  let choices := option.choices.map OutputFormat.word
  if value.bytes = [] && (option.isPath || choices ≠ []) then
    .error (.mistake ⟨.noValue option, none, none⟩)
  else if choices = [] then
    if option.isPath || value.text?.isSome then .ok ()
    else .error (.mistake ⟨.notText, none, some (.general command)⟩)
  else if value.text?.any choices.contains then .ok ()
  else
    let tip := (Similarity.similar value.shown choices).getLast?.map fun word =>
      UsageTip.similar "value" [word]
    .error (.mistake ⟨.impossibleValue option value.shown, tip, none⟩)

/-- Accepts an option with its value. -/
def accept (gathered : Gathered) (option : CommandOption) (value : SystemText) :
    Except Halt Gathered := do
  if gathered.has option then throw (gathered.mistaken (.repeated option) none)
  checkValue gathered.command option value
  return { gathered with given := gathered.given ++ [(option, value)] }

/-- Accepts the option that is pending. -/
def settle (gathered : Gathered) : Except Halt Gathered :=
  match gathered.pending with
  | none => .ok gathered
  | some (option, none) => .error (.mistake ⟨.noValue option, none, none⟩)
  | some (option, some value) => { gathered with pending := none }.accept option value

/-- Takes an option without a value. -/
def takeFlag (gathered : Gathered) (option : CommandOption) (long : Bool) :
    Except Halt Gathered := do
  let gathered ← gathered.settle
  match option with
  | .help => throw (.help gathered.command long)
  | .version => throw .version
  | flag => gathered.accept flag ""

/-- The command among those that follow, named by a later word, to which an option like a word
belongs, and the name of the option. -/
def elsewhere? (command : CommandName) (name : String) (later : List SystemText) :
    Option (CommandName × String) :=
  if command ≠ .program then none
  else
    later.findSome? fun word => do
      let other ← command.follower? word
      let option ← (Similarity.similar name (other.options.map CommandOption.long)).getLast?
      return (other, option)

/-- The mistake of an option that the command does not have. -/
def unknownOption (gathered : Gathered) (name : String) (later : List SystemText) : Halt :=
  let options := gathered.command.options
  let like := (Similarity.similar name (options.map CommandOption.long)).getLast?
  let meant := like.bind fun word => options.find? fun option => option.long = word
  let tip := match meant with
    | some option => some (UsageTip.similar "argument" ["--" ++ option.long])
    | none => (elsewhere? gathered.command name later).map fun (other, option) =>
        .belongs (other.word ++ " --" ++ option)
  .mistake ⟨.unknownArgument ("--" ++ name), tip,
    some (gathered.usageOf (gathered.seen ++ meant.toList))⟩

/-- Takes an option by its long name, with a value if one is attached. -/
def takeLong (gathered : Gathered) (name : String) (attached : Option SystemText)
    (later : List SystemText) : Except Halt Gathered := do
  match gathered.command.options.find? fun option => option.long = name with
  | none => throw (gathered.unknownOption name later)
  | some option =>
    match option.takesValue, attached with
    | true, some value => (← gathered.settle).accept option value
    | true, none => return { (← gathered.settle) with pending := some (option, none) }
    | false, none => gathered.takeFlag option true
    | false, some value =>
      let accepted := gathered.given.map Prod.fst
      throw (.mistake ⟨.needlessValue option value.shown, none,
        some { gathered.usageOf accepted with given := accepted ++ [option] }⟩)

/-- Takes options by their letters. -/
def takeShort (gathered : Gathered) : List Utf8.Piece → Except Halt Gathered
  | [] => .ok gathered
  | .invalid bytes :: rest =>
    let shown := (.invalid bytes :: rest).map Utf8.Piece.shown
    .error (gathered.mistaken (.unknownArgument (String.ofList ('-' :: shown))) none)
  | .character letter :: rest =>
    match gathered.command.options.find? fun option => option.short? = some letter with
    | none =>
      .error (gathered.mistaken (.unknownArgument (String.ofList ['-', letter])) none)
    | some option =>
      match gathered.takeFlag option false with
      | .ok gathered => gathered.takeShort rest
      | .error halt => .error halt

/-- The mistake of a word that is neither an option nor a value. -/
def unknownWord (gathered : Gathered) (afterDashes : Bool) (word : SystemText) : Halt :=
  let names := CommandName.all.map CommandName.word
  let shown := word.shown
  if afterDashes && (gathered.command.follower? word).isSome then
    gathered.mistaken (.unknownArgument shown) (some (.withoutDashes shown))
  else if gathered.command = .program then
    match Similarity.similar shown names with
    | [] => gathered.mistaken (.unknownCommand shown) none
    | candidates =>
      gathered.mistaken (.unknownCommand shown) (some (.similar "subcommand" candidates))
  else gathered.mistaken (.unknownArgument shown) none

/-- The help that the words after the command for help ask for. -/
def helpFor (command : CommandName) : List SystemText → Halt
  | [] => .help command true
  | word :: rest =>
    match command.follower? word with
    | some follower => helpFor follower rest
    | none => .mistake ⟨.unknownCommand word.shown, none, some (.general command)⟩

/-- Whether the value of the pending option is still to come. -/
def isWaiting (gathered : Gathered) : Bool :=
  match gathered.pending with
  | some (_, none) => true
  | _ => false

/-- Gathers options from words, up to a word that is a command. The result says which command
follows, and with which words. -/
def gather (gathered : Gathered) :
    List SystemText → Except Halt (Gathered × Option (CommandName × List SystemText))
  | [] => .ok (gathered, none)
  | word :: rest =>
    match gathered.isWaiting, gathered.command.follower? word with
    | false, some .help => .error (helpFor gathered.command rest)
    | false, some follower => .ok (gathered, some (follower, rest))
    | _, _ =>
      match WordForm.of word with
      | .dashes =>
        match rest with
        | [] => .ok (gathered, none)
        | next :: _ => .error (gathered.unknownWord true next)
      | .long name attached =>
        match gathered.takeLong name attached rest with
        | .ok gathered => gathered.gather rest
        | .error halt => .error halt
      | .short letters =>
        match gathered.takeShort letters with
        | .ok gathered => gathered.gather rest
        | .error halt => .error halt
      | .plain =>
        match gathered.pending with
        | some (option, none) => { gathered with pending := some (option, some word) }.gather rest
        | _ => .error (gathered.unknownWord false word)

/-- Takes the values that variables give to options that are not given. -/
def takeVariables (gathered : Gathered) (environment : Environment) :
    List CommandOption → Except Halt Gathered
  | [] => .ok gathered
  | option :: rest =>
    match option.fallback?.bind environment.get?, gathered.has option with
    | some value, false =>
      match gathered.accept option value with
      | .ok gathered => gathered.takeVariables environment rest
      | .error halt => .error halt
    | _, _ => gathered.takeVariables environment rest

/-- The option that cannot be used together with an option. -/
def opposite? : CommandOption → Option CommandOption
  | .dryRun => some .check
  | .check => some .dryRun
  | _ => none

/-- Checks that no two options exclude each other. -/
def checkConflicts (gathered : Gathered) : Except Halt Unit :=
  let options := gathered.given.map Prod.fst
  let conflict := options.findSome? fun option =>
    (opposite? option).bind fun other =>
      if options.contains other then some (option, other) else none
  match conflict with
  | some (option, other) =>
    .error (.mistake ⟨.conflict option other, none,
      some ⟨gathered.command, options.filter (· ≠ other), false⟩⟩)
  | none => .ok ()

/-- The options of a command that no other command follows. -/
def complete (command : CommandName) (environment : Environment) (words : List SystemText) :
    Except Halt Gathered := do
  let (gathered, _) ← (start command).gather words
  let gathered ← (← gathered.settle).takeVariables environment command.ownOptions
  gathered.checkConflicts
  return gathered

end Gathered

end RecordRegistry
