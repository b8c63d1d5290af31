import CallWeave.Step.Call
import CallWeave.Workflow.Error

/-!
# Steps

What a generator answers with, and what a build keeps of it. A step has a name, the running amount after it,
the currency it needs and a call; it may know how to decode the return data of its call. A workflow that
stands as a step of another is kept by reference: its calls are read from its own current build whenever they
are asked for.
-/

namespace CallWeave

/-- Reads return data. -/
abbrev Decoder := Bytes → Except WorkflowError Json

/-- A step as a generator makes it. -/
structure Step where
  name : String
  /-- The running amount after the step. -/
  amountOut : Uint256
  /-- The currency that the step needs. -/
  value : Option Uint256
  /-- The call, or why there is none. -/
  call : Except WorkflowError PreparedCall
  decoder : Option Decoder
  resultDecoder : Option Decoder

namespace Step

/-- A step with a given call. -/
def ofCall (name : String) (amountOut : Uint256) (call : PreparedCall) : Step :=
  ⟨name, amountOut, none, .ok call, none, none⟩

/-- Runs a decoder that may be missing. -/
def runDecoder (decoder : Option Decoder) (data : Bytes) : Except WorkflowError (Option Json) :=
  match decoder with
  | none => .ok none
  | some decode => (decode data).map some

/-- Decodes return data. -/
def decode (step : Step) (data : Bytes) : Except WorkflowError (Option Json) :=
  runDecoder step.decoder data

/-- Decodes the entry of a step among the results of a whole sequence. -/
def decodeResult (step : Step) (data : Bytes) : Except WorkflowError (Option Json) :=
  runDecoder step.resultDecoder data

end Step

/-- What a generator answers with: a bare payload, a bare call or a whole step. -/
inductive StepOutput where
  | payload (bytes : Bytes)
  | prepared (call : PreparedCall)
  | step (step : Step)

/-- The step of an answer. Bare ones take the generator's name and pass the amount on. -/
def StepOutput.toStep (name : String) (amountIn : Uint256) : StepOutput → Step
  | .payload bytes => .ofCall name amountIn (.plain bytes)
  | .prepared call => .ofCall name amountIn call
  | .step made => made

/-- Names the place where the current build of a workflow is kept. Holders of one shared workflow hold one
name. -/
abbrev CellId := List Nat

/-- A step as a build keeps it. -/
inductive BuiltStep where
  | own (step : Step)
  /-- A nested workflow: its name, amount and value when it was built, and where its build is kept. -/
  | nested (cell : CellId) (name : String) (amountOut value : Uint256)

namespace BuiltStep

/-- The name of a step. -/
def name : BuiltStep → String
  | .own step => step.name
  | .nested _ name _ _ => name

/-- The running amount after a step. -/
def amountOut : BuiltStep → Uint256
  | .own step => step.amountOut
  | .nested _ _ amountOut _ => amountOut

/-- The currency that a step needs. -/
def value : BuiltStep → Option Uint256
  | .own step => step.value
  | .nested _ _ _ value => some value

end BuiltStep

end CallWeave
