import CallWeave.CommandLine.Grammar

/-!
# Commands

The commands of the program and what each of them is given. Texts are taken as they stand; reading them is
the commands' own work.
-/

namespace CallWeave.CommandLine

/-- The actions that a command line can name. -/
inductive Action where
  | clipboardEncode
  | clipboardSlot
  | clipboardDecode
  | planPreview
  | planSimulate
deriving DecidableEq

/-- A command about clipboards. -/
inductive ClipboardCommand where
  | encode (instructions : String) (value : Option String)
  | slot (source copy paste : String) (value : Option String)
  | decode (hex : String)
deriving DecidableEq

/-- A command about plans. -/
inductive PlanCommand where
  | preview (mode : String)
  | simulate (sender : Option String)
deriving DecidableEq

/-- What the program is asked to do. -/
inductive Command where
  | clipboard (command : ClipboardCommand)
  | plan (file amount : String) (command : PlanCommand)
deriving DecidableEq

/-- A whole command line: where the configuration is, if it says so, and the command, if it names one. -/
structure Invocation where
  configPath : Option String
  command : Option Command
deriving DecidableEq

/-- The path of the configuration, which can be given at every level. -/
def configOption : OptionShape := ⟨"config", none, false⟩

/-- The value of an encoded clipboard. -/
def valueOption : OptionShape := ⟨"value", none, false⟩

/-- The file of a plan. -/
def fileOption : OptionShape := ⟨"file", some 'f', true⟩

/-- The running amount that a plan starts with. -/
def amountOption : OptionShape := ⟨"amount", none, false⟩

/-- The commands about clipboards. -/
def clipboardCommands : CommandShape Action :=
  .group false [
    ("encode", .action .clipboardEncode [⟨"instructions", some 'i', true⟩, valueOption] []),
    ("slot", .action .clipboardSlot [valueOption] ["source", "copy", "paste"]),
    ("decode", .action .clipboardDecode [] ["hex"])]

/-- The commands about plans. -/
def planCommands : CommandShape Action :=
  .group false [
    ("preview", .action .planPreview [fileOption, amountOption, ⟨"mode", none, false⟩] []),
    ("simulate", .action .planSimulate [fileOption, amountOption, ⟨"from", none, false⟩] [])]

/-- All commands. -/
def commands : CommandShape Action :=
  .group true [("clipboard", clipboardCommands), ("plan", planCommands)]

/-- The command that an action with its values stands for. An amount that is not given is zero, and a mode that
is not given is `execute`. -/
def Action.command (value? : String → Option String) : Action → Command
  | .clipboardEncode => .clipboard (.encode (given "instructions") (value? "value"))
  | .clipboardSlot => .clipboard (.slot (given "source") (given "copy") (given "paste") (value? "value"))
  | .clipboardDecode => .clipboard (.decode (given "hex"))
  | .planPreview => .plan (given "file") amount (.preview ((value? "mode").getD "execute"))
  | .planSimulate => .plan (given "file") amount (.simulate (value? "from"))
where
  given (name : String) : String := (value? name).getD ""
  amount : String := (value? "amount").getD "0"

/-- Reads a command line. -/
def Invocation.parse (arguments : List String) : Except UsageError Invocation :=
  (read [configOption] commands arguments).map fun reading =>
    ⟨reading.value? configOption.name, reading.act.map (Action.command reading.value?)⟩

end CallWeave.CommandLine
