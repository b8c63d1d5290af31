import CallWeave.CommandLine.Argument

/-!
# Grammars of command lines

A command either acts, and then takes options and operands, or is a group of further commands. Every option
takes one value and is given at most once at each level. Some options can be given at every level; the
deepest level that gives one decides.

An option whose value is not attached stays *pending* until the next thing that is not its value: only then
is it settled, and found to lack its value or to be repeated. What is wrong is reported at the first argument
where it shows, so a pending option may be reported after a later argument was looked at. A level is complete
only after the levels below it.
-/

namespace CallWeave.CommandLine

/-- What is wrong with a command line. -/
inductive UsageError where
  /-- Help was asked for. -/
  | helpWanted
  | unknownCommand
  | missingCommand
  | unknownArgument
  | missingArgument
  | missingValue
  | repeatedOption
  /-- A value is attached to an option that takes none. -/
  | unwantedValue
deriving DecidableEq

/-- An option. -/
structure OptionShape where
  name : String
  letter : Option Char
  isRequired : Bool

/-- A command: what it takes and what it stands for. -/
inductive CommandShape (α : Type) where
  | action (act : α) (options : List OptionShape) (operands : List String)
  /-- Some commands under their names. When `isOptional`, the group can stand without one of them. -/
  | group (isOptional : Bool) (commands : List (String × CommandShape α))

/-- What a command line says. -/
structure Reading (α : Type) where
  /-- The action, unless the line ends at a group. -/
  act : Option α
  /-- The values of options and operands under their names, those of the deepest level first. -/
  values : List (String × String)

/-- The value under a name. -/
def Reading.value? {α : Type} (reading : Reading α) (name : String) : Option String := reading.values.lookup name

namespace CommandShape

variable {α : Type}

/-- The options of a command itself. -/
def options : CommandShape α → List OptionShape
  | .action _ options _ => options
  | .group _ _ => []

/-- The operands of a command. -/
def operands : CommandShape α → List String
  | .action _ _ operands => operands
  | .group _ _ => []

/-- The command under a name. -/
def command? : CommandShape α → String → Option (CommandShape α)
  | .action _ _ _, _ => none
  | .group _ commands, name => commands.lookup name

/-- Whether there are commands below. -/
def isGroup : CommandShape α → Bool
  | .action _ _ _ => false
  | .group _ _ => true

end CommandShape

/-- The name of the command and of the option that ask for help. -/
def helpName : String := "help"

/-- The letter that asks for help. -/
def helpLetter : Char := 'h'

/-- How far a level has been read. -/
structure LevelState where
  /-- Settled values, the latest first. -/
  values : List (String × String)
  /-- The last option, with its value if that has come. -/
  pending : Option (String × Option String)
  /-- The operands that have not come. -/
  waiting : List String
  /-- Whether the options have ended. -/
  plainOnly : Bool

namespace LevelState

/-- A level of which nothing has been read. -/
def start {α : Type} (shape : CommandShape α) : LevelState := ⟨[], none, shape.operands, false⟩

/-- Records a value. -/
def record (state : LevelState) (name value : String) : Except UsageError LevelState :=
  if (state.values.lookup name).isSome then .error .repeatedOption
  else .ok { state with values := (name, value) :: state.values }

/-- Settles the pending option. -/
def settle (state : LevelState) : Except UsageError LevelState :=
  match state.pending with
  | none => .ok state
  | some (_, none) => .error .missingValue
  | some (name, some value) => { state with pending := none }.record name value

/-- Whether the next plain argument is the value of the pending option. -/
def awaitsValue (state : LevelState) : Bool :=
  match state.pending with
  | some (_, none) => !state.plainOnly
  | _ => false

/-- Takes an option, with the value attached to it if there is one. -/
def takeOption (state : LevelState) (name : String) (attached : Option String) : Except UsageError LevelState :=
  match state.settle with
  | .error e => .error e
  | .ok settled =>
    match attached with
    | some value => settled.record name value
    | none => .ok { settled with pending := some (name, none) }

/-- Answers a request for help: what is pending comes first. -/
def help (state : LevelState) : UsageError :=
  match state.settle with
  | .error e => e
  | .ok _ => .helpWanted

/-- Takes a plain argument that is not the name of a command. -/
def takePlain {α : Type} (shape : CommandShape α) (state : LevelState) (text : String) :
    Except UsageError LevelState :=
  match state.pending, state.awaitsValue, state.waiting with
  | some (name, _), true, _ => .ok { state with pending := some (name, some text) }
  | _, _, operand :: waiting =>
    match state.settle with
    | .error e => .error e
    | .ok settled => { settled with waiting := waiting }.record operand text
  | _, _, [] =>
    if shape.isGroup ∧ ¬ (state.plainOnly ∧ (shape.command? text).isSome) then .error .unknownCommand
    else .error .unknownArgument

/-- Takes an argument that is not the name of a command. -/
def take {α : Type} (shape : CommandShape α) (options : List OptionShape) (state : LevelState) (text : String) :
    Except UsageError LevelState :=
  if state.plainOnly then state.takePlain shape text
  else match Argument.ofText text with
    | .optionsEnd => .ok { state with plainOnly := true }
    | .long name attached =>
      if name = helpName then
        .error (if attached.isSome then .unwantedValue else state.help)
      else if (options.map (·.name)).contains name then state.takeOption name attached
      else .error .unknownArgument
    | .short letter rest =>
      if letter = helpLetter then .error state.help
      else match options.find? (·.letter == some letter) with
        | some option => state.takeOption option.name (attachedValue? rest)
        | none => .error .unknownArgument
    | .plain => state.takePlain shape text

/-- What a level says once all of it has been read; `below` is what the level below says. -/
def finish {α : Type} (shape : CommandShape α) (options : List OptionShape) (state : LevelState)
    (below : Option (Reading α)) : Except UsageError (Reading α) :=
  match state.settle with
  | .error e => .error e
  | .ok settled =>
    match shape, below with
    | .group _ _, some reading => .ok ⟨reading.act, reading.values ++ settled.values⟩
    | .group isOptional _, none => if isOptional then .ok ⟨none, settled.values⟩ else .error .missingCommand
    | .action act _ _, _ =>
      let isGiven (name : String) : Bool := (settled.values.lookup name).isSome
      if settled.waiting.isEmpty && options.all fun option => !option.isRequired || isGiven option.name then
        .ok ⟨some act, settled.values⟩
      else .error .missingArgument

end LevelState

/-- What asking for help with some commands says: each has to be a command of the one before. -/
def helpWith {α : Type} (shape : CommandShape α) : List String → UsageError
  | [] => .helpWanted
  | name :: rest =>
    match shape.command? name with
    | some below => helpWith below rest
    | none =>
      if shape.isGroup ∧ name = helpName ∧ rest.isEmpty then .helpWanted else .unknownCommand

/-- Reads a level from some state on. -/
def readLevel {α : Type} (everywhere : List OptionShape) :
    CommandShape α → LevelState → List String → Except UsageError (Reading α)
  | shape, state, [] => state.finish shape (shape.options ++ everywhere) none
  | shape, state, text :: rest =>
    match !state.plainOnly && !state.awaitsValue, shape.isGroup, shape.command? text with
    | true, _, some below =>
      match readLevel everywhere below (.start below) rest with
      | .error e => .error e
      | .ok reading => state.finish shape (shape.options ++ everywhere) (some reading)
    | inCommandPlace, isGroup, _ =>
      if inCommandPlace ∧ isGroup ∧ text = helpName then .error (helpWith shape rest)
      else match state.take shape (shape.options ++ everywhere) text with
        | .error e => .error e
        | .ok next => readLevel everywhere shape next rest

/-- Reads a command line; `everywhere` are the options that can be given at every level. -/
def read {α : Type} (everywhere : List OptionShape) (shape : CommandShape α) (arguments : List String) :
    Except UsageError (Reading α) :=
  readLevel everywhere shape (.start shape) arguments

end CallWeave.CommandLine
