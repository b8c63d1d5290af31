import CallWeave.CommandLine.Plan

/-!
# Running a command line

A command line is read first, then the configuration is loaded, and then the command runs. What comes of it
is a text, a failure or a complaint about the command line itself. The hosts of endpoints are read by a parser
that is given.
-/

namespace CallWeave.CommandLine

/-- What a run ends with. -/
inductive Outcome where
  | printed (text : String)
  | failed (failure : Failure)
  | misused (error : UsageError)

/-- The path of the configuration. -/
def Invocation.configLocation (env : Environment) (invocation : Invocation) : String :=
  match invocation.configPath with
  | some path => Path.expandHome env.home path
  | none => Config.defaultPath env

/-- The paths of the files that a run reads. -/
def Invocation.paths (env : Environment) (invocation : Invocation) : List String :=
  invocation.configLocation env :: match invocation.command with
    | some (.plan file _ _) => [Path.expandHome env.home file]
    | _ => []

/-- Runs a command under a configuration. -/
def Command.run (hosts : Url.HostParser) (env : Environment) (tree : FileTree) (config : Config) (command : Command)
    (line : JsonRpc.Line) : Except Failure String × JsonRpc.Line :=
  match command with
  | .clipboard command => (command.run, line)
  | .plan file amount command =>
    let (result, after) := command.run hosts config tree (Path.expandHome env.home file) amount line
    (result.map Json.pretty, after)

/-- Runs what a command line asks for. -/
def Invocation.run (hosts : Url.HostParser) (env : Environment) (tree : FileTree) (invocation : Invocation)
    (line : JsonRpc.Line) : Except Failure String × JsonRpc.Line :=
  match Config.load tree (invocation.configLocation env) with
  | .error e => (.error (.config e), line)
  | .ok config =>
    match invocation.command with
    | none => (.error .noCommand, line)
    | some command => command.run hosts env tree config line

/-- Runs a command line. -/
def run (hosts : Url.HostParser) (env : Environment) (tree : FileTree) (arguments : List String) (line : JsonRpc.Line) :
    Outcome × JsonRpc.Line :=
  match Invocation.parse arguments with
  | .error e => (.misused e, line)
  | .ok invocation =>
    match invocation.run hosts env tree line with
    | (.ok text, after) => (.printed text, after)
    | (.error e, after) => (.failed e, after)

/-- A summary of the commands. -/
def helpText : String :=
  "Compose multi-step calls with cross-call paste instructions\n\n"
    ++ "Commands:\n"
    ++ "  clipboard encode --instructions JSON [--value AMOUNT]\n"
    ++ "  clipboard slot SOURCE COPY PASTE [--value AMOUNT]\n"
    ++ "  clipboard decode HEX\n"
    ++ "  plan preview --file PATH [--amount AMOUNT] [--mode MODE]\n"
    ++ "  plan simulate --file PATH [--amount AMOUNT] [--from ADDRESS]\n\n"
    ++ "Options:\n"
    ++ "  --config PATH  the configuration file\n"
    ++ "  -h, --help     this summary"

/-- What is said about a command line that cannot be read. -/
def UsageError.message : UsageError → String
  | .helpWanted => helpText
  | .unknownCommand => "error: unrecognized subcommand"
  | .missingCommand => "error: a subcommand is required"
  | .unknownArgument => "error: unexpected argument"
  | .missingArgument => "error: a required argument is missing"
  | .missingValue => "error: an option lacks its value"
  | .repeatedOption => "error: an option is given more than once"
  | .unwantedValue => "error: an option takes no value"

/-- The exit status of the program: one for a failure, two for a command line that cannot be read. -/
def Outcome.status : Outcome → Nat
  | .printed _ => 0
  | .failed _ => 1
  | .misused .helpWanted => 0
  | .misused _ => 2

/-- What the program writes to standard output. -/
def Outcome.output : Outcome → String
  | .printed text => text ++ "\n"
  | .misused .helpWanted => helpText ++ "\n"
  | _ => ""

/-- What the program writes to standard error. -/
def Outcome.complaint : Outcome → String
  | .failed failure => "Error: " ++ "\nCaused by: ".intercalate failure.chain ++ "\n"
  | .misused .helpWanted => ""
  | .misused error => error.message ++ "\n"
  | .printed _ => ""

end CallWeave.CommandLine
