import CallWeave.Workflow.Result

/-!
# Submitting

The three ways to ask for the complete transaction: for submission, for a read-only simulation and for an
estimate of its cost. The latter two send one request, after the build and the finalizing have succeeded.
The rest of the module is what can be observed of a workflow without changing it.
-/

namespace CallWeave.Workflow

variable {σ : Type}

/-- Builds in a mode and finalizes. -/
def outbound (workflow : Workflow σ) (amount : Uint256) (mode : RunMode) (data : RunData) (world : World σ) :
    Except WorkflowError OutboundCall × World σ :=
  match workflow.build amount mode data world with
  | (.error e, after) => (.error e, after)
  | (.ok _, after) => (workflow.finalize after.cells, after)

/-- The complete transaction, for submission. -/
def execute (workflow : Workflow σ) (amount : Uint256) (data : RunData) (world : World σ) :
    Except WorkflowError OutboundCall × World σ :=
  workflow.outbound amount .execute data world

/-- Sends a request to a transport in the outside world. -/
def ask {α : Type} (send : CallRequest → σ → Except TransportError α × σ) (request : CallRequest)
    (world : World σ) : Except WorkflowError α × World σ :=
  match send request world.outside with
  | (.error e, outside) => (.error (.transport e), ⟨world.cells, outside⟩)
  | (.ok answer, outside) => (.ok answer, ⟨world.cells, outside⟩)

/-- Simulates the complete transaction and decodes what its calls return. -/
def callStatic (workflow : Workflow σ) (amount : Uint256) (data : RunData) (transport : Transport σ)
    (sender : Option Address) (world : World σ) : Except WorkflowError (List StepResult) × World σ :=
  match workflow.outbound amount .readOnlyCall data world with
  | (.error e, after) => (.error e, after)
  | (.ok call, after) =>
    match ask transport.call (call.toRequest sender) after with
    | (.error e, after) => (.error e, after)
    | (.ok returned, after) => (workflow.decodeReturn after.cells returned, after)

/-- Asks what the complete transaction would cost. -/
def estimateCost (workflow : Workflow σ) (amount : Uint256) (data : RunData) (transport : Transport σ)
    (sender : Option Address) (world : World σ) : Except WorkflowError Uint256 × World σ :=
  match workflow.outbound amount .estimateCost data world with
  | (.error e, after) => (.error e, after)
  | (.ok call, after) => ask transport.estimateCost (call.toRequest sender) after

/-! ## What can be observed -/

/-- Whether there is a current build. -/
def isBuilt (workflow : Workflow σ) (cells : Cells) : Bool := (cells workflow.cell).isSome

/-- The current build, or one without steps. -/
def currentOrEmpty (workflow : Workflow σ) (cells : Cells) : Build := (cells workflow.cell).getD .empty

/-- The tags of the current build in the order of registration. -/
def tags (workflow : Workflow σ) (cells : Cells) : TagIndex := (workflow.currentOrEmpty cells).tags

/-- The position of a tag's step among the emitted ones. -/
def findTag (workflow : Workflow σ) (cells : Cells) (tag : String) : Except WorkflowError Nat :=
  match (workflow.tags cells).lookup tag with
  | some index => .ok index
  | none => .error (.tagNotFound tag)

/-- The currency that the steps of the current build need. -/
def value (workflow : Workflow σ) (cells : Cells) : Uint256 := (workflow.currentOrEmpty cells).value

/-- How many calls the current build emits. -/
def length (workflow : Workflow σ) (cells : Cells) : Nat := (workflow.currentOrEmpty cells).emitted.length

/-- The running amount at the end of the current build. -/
def amountOut (workflow : Workflow σ) (cells : Cells) : Except WorkflowError Uint256 :=
  (workflow.current cells).map Build.amountOut

/-- The names of all built steps and the running amounts after them. -/
def summary (workflow : Workflow σ) (cells : Cells) : List (String × Uint256) :=
  (workflow.currentOrEmpty cells).steps.map fun step => (step.name, step.amountOut)

end CallWeave.Workflow
