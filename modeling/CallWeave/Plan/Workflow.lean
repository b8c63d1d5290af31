import CallWeave.Plan.Document

/-!
# Workflows from plans

Every step of a plan becomes a generator: a raw call, or the workflow of the plan inside it. A step has to be
exactly one of the two, and a literal clipboard has to be one.
-/

namespace CallWeave

/-- What keeps a plan from being a workflow. -/
inductive PlanError where
  | clipboard (step : String) (cause : ClipboardError)
  | nested (step : String) (cause : PlanError)
  /-- A step is a call and a plan. -/
  | ambiguous (step : String)
  /-- A step is neither. -/
  | vacant (step : String)
deriving DecidableEq

/-- The texts of an error, the outermost first. -/
def PlanError.chain : PlanError → List String
  | .clipboard step cause => ["invalid clipboard on step '" ++ step ++ "'", cause.message]
  | .nested step cause => ("invalid nested workflow in step '" ++ step ++ "'") :: cause.chain
  | .ambiguous step => ["step '" ++ step ++ "' sets both call_data and workflow"]
  | .vacant step => ["step '" ++ step ++ "' needs either call_data or workflow"]

/-- What is said about a text that is no plan. -/
def PlanDocument.malformedText : String := "failed to parse plan document"

/-- Where the clipboard of a step comes from. -/
def PlanClipboard.source : PlanClipboard → Except ClipboardError ClipboardSource
  | .fromTag tag copySlot pasteSlot => .ok (.fromTag tag copySlot pasteSlot)
  | .literal instructions value =>
    match PasteParams.ofJson instructions with
    | .error e => .error e
    | .ok params => (Clipboard.encode params (value.getD 0)).map .literal

/-- The options of a step. -/
def PlanStepOf.options {δ : Type} (step : PlanStepOf δ) : StepOptions :=
  ⟨step.tag, .ofBool step.skip, step.onlyLocal, step.onlyExecute⟩

/-- The raw call of a step with some calldata. -/
def PlanStepOf.rawCall {δ : Type} (step : PlanStepOf δ) (callData : Bytes) : Except PlanError RawCall :=
  match step.clipboard with
  | none => .ok ⟨step.name, step.target, callData, .absent, step.amountOut, step.value⟩
  | some clipboard =>
    match clipboard.source with
    | .error e => .error (.clipboard step.name e)
    | .ok source => .ok ⟨step.name, step.target, callData, source, step.amountOut, step.value⟩

namespace PlanDocument

mutual

/-- The workflow of a plan, in a cell and under a name. -/
def workflowIn {σ : Type} (contracts : Contracts) : PlanDocument → CellId → (name : String) →
    Except PlanError (Workflow σ)
  | .mk _ kind steps, cell, name =>
    match entriesFrom contracts steps cell 0 with
    | .error e => .error e
    | .ok entries => .ok ⟨cell, name, .ofContracts contracts kind, entries⟩

/-- The entries of steps, the first of which stands at `position`. -/
def entriesFrom {σ : Type} (contracts : Contracts) : List PlanStep → CellId → (position : Nat) →
    Except PlanError (List (Entry (Generator σ)))
  | [], _, _ => .ok []
  | step :: rest, cell, position =>
    let generator : Except PlanError (Generator σ) :=
      match step.callData, nestedIn contracts step.workflow (position :: cell) step.name with
      | some callData, none => (step.rawCall callData).map RawCall.generator
      | none, some (.ok inner) => .ok inner.asGenerator
      | none, some (.error e) => .error (.nested step.name e)
      | some _, some _ => .error (.ambiguous step.name)
      | none, none => .error (.vacant step.name)
    match generator with
    | .error e => .error e
    | .ok generator =>
      match entriesFrom contracts rest cell (position + 1) with
      | .error e => .error e
      | .ok entries => .ok (⟨generator, step.options⟩ :: entries)

/-- The workflow of a nested plan, if there is one. Without a name of its own it takes that of its step. -/
def nestedIn {σ : Type} (contracts : Contracts) : Option PlanDocument → CellId → (step : String) →
    Option (Except PlanError (Workflow σ))
  | none, _, _ => none
  | some plan, cell, step => some (workflowIn contracts plan cell (plan.workflow.getD step))

end

/-- The workflow of a plan. Nested ones are kept in cells below its own. -/
def toWorkflow {σ : Type} (plan : PlanDocument) (contracts : Contracts) (cell : CellId) :
    Except PlanError (Workflow σ) :=
  plan.workflowIn contracts cell plan.name

end PlanDocument

end CallWeave
