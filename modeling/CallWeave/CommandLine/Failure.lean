import CallWeave.Bytes.Numeral
import CallWeave.Config.Stored
import CallWeave.Plan.Workflow
import CallWeave.Run.Mode
import CallWeave.Workflow.Error

/-!
# Failures of commands

What a command can fail with. A failure is told as a chain of texts from the outermost cause to the innermost.
-/

namespace CallWeave

/-- A configuration error as a text. -/
def ConfigError.message : ConfigError → String
  | .access => "the configuration cannot be read or written"
  | .malformed => "the configuration is malformed"
  | .invalid problem => problem.message

/-- A workflow error as a chain. -/
def WorkflowError.chain : WorkflowError → List String
  | .stepFailed workflow step source => (WorkflowError.stepFailed workflow step source).message :: source.chain
  | .simulation text (some source) => [(WorkflowError.simulation text (some source)).message, source.message]
  | error => [error.message]

namespace CommandLine

/-- Why a command fails. -/
inductive Failure where
  | noCommand
  | config (error : ConfigError)
  | instructionsNotJson
  | clipboard (error : ClipboardError)
  | badAmount (what raw : String) (error : Numeral.Error)
  | badIndex (what raw : String) (error : Numeral.PlainError)
  | clipboardNotHex (error : Hex.Error)
  | planUnreadable (path : String)
  | planMalformed (path : String)
  | plan (error : PlanError)
  | unknownMode
  | workflow (error : WorkflowError)
  | badSender (raw : String) (error : Hex.Error)
  | transport (error : TransportError)

/-- The text in front of the value that cannot be read. -/
def invalidText (what raw : String) : String := "invalid " ++ what ++ " '" ++ raw ++ "'"

/-- The texts of a failure, the outermost first. -/
def Failure.chain : Failure → List String
  | .noCommand => ["expected a subcommand; try --help"]
  | .config error => [error.message]
  | .instructionsNotJson => ["instructions must be JSON", "the text is no JSON"]
  | .clipboard error => [error.message]
  | .badAmount what raw error => [invalidText what raw ++ ": " ++ error.message]
  | .badIndex what raw error => [invalidText what raw, error.message]
  | .clipboardNotHex error => ["clipboard must be hex", error.message]
  | .planUnreadable path => ["Failed to read plan file: " ++ path, "the file cannot be read"]
  | .planMalformed path => ["in " ++ path, PlanDocument.malformedText, "the text is no plan"]
  | .plan error => error.chain
  | .unknownMode => [RunMode.parseMessage]
  | .workflow error => error.chain
  | .badSender raw error => [invalidText "--from" raw, error.message]
  | .transport error => [error.message]

end CommandLine

end CallWeave
