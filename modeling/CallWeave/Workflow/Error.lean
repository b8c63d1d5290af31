import CallWeave.Amount.Slippage
import CallWeave.Clipboard.Instruction
import CallWeave.Transport.Error

/-!
# Workflow errors

Everything that can go wrong while a workflow is built or finalized. An error inside a step is wrapped with
the names of the workflow and the step, once for each level of nesting; `rootCause` takes the wrapping off.
-/

namespace CallWeave

/-- Why a workflow cannot be built, finalized or decoded. -/
inductive WorkflowError where
  | duplicateTag (workflow tag : String)
  | tagNotFound (tag : String)
  | notBuilt (workflow : String)
  | emptySequence (workflow : String)
  | missingRunData (step key : String)
  | missingTarget (step : String)
  | clipboard (error : ClipboardError)
  | slippage (error : SlippageError)
  /-- A read-only simulation failed for good; `source` is there when the transport failed. -/
  | simulation (message : String) (source : Option TransportError)
  | stepFailed (workflow step : String) (source : WorkflowError)
  | transport (error : TransportError)
  | decode (what message : String)
  /-- A number left its 64 bits. The program stops there; what a holder of the step makes of it is never seen. -/
  | overflow (operation : String)

namespace WorkflowError

/-- The text of an error. -/
def message : WorkflowError → String
  | .duplicateTag workflow tag => "tag '" ++ tag ++ "' is already registered in workflow '" ++ workflow ++ "'"
  | .tagNotFound tag => "Tag does not exist: " ++ tag
  | .notBuilt workflow => "workflow '" ++ workflow ++ "' has not been built"
  | .emptySequence workflow => "workflow '" ++ workflow ++ "' has no steps to encode"
  | .missingRunData step key => "'" ++ step ++ "' requires run data '" ++ key ++ "'"
  | .missingTarget step => "step '" ++ step ++ "' did not provide a call target"
  | .clipboard error => error.message
  | .slippage error => error.message
  | .simulation text _ => "simulation failed: " ++ text
  | .stepFailed workflow step source =>
    "step '" ++ step ++ "' of workflow '" ++ workflow ++ "' failed: " ++ source.message
  | .transport error => error.message
  | .decode what text => "failed to decode " ++ what ++ ": " ++ text
  | .overflow operation => "attempt to " ++ operation ++ " with overflow"

/-- The error inside all wrapping. -/
def rootCause : WorkflowError → WorkflowError
  | .stepFailed _ _ source => source.rootCause
  | error => error

end WorkflowError

end CallWeave
