import CallWeave.Workflow.Run

/-!
# Finalizing

The calls of a build, and the one outbound call that sends them all. The call of a nested workflow is made
from the build that its own cell holds at that moment, so it is never older than what its holders see.
-/

namespace CallWeave

/-- What asks a nested workflow for its call. -/
abbrev NestedCalls := CellId → Except WorkflowError PreparedCall

/-- The call of a step. -/
def BuiltStep.call (nested : NestedCalls) : BuiltStep → Except WorkflowError PreparedCall
  | .own step => step.call
  | .nested cell _ _ _ => nested cell

/-- The calls of some steps in order, or the error of the first that has none. -/
def namedCalls (nested : NestedCalls) : List BuiltStep → Except WorkflowError (List NamedCall)
  | [] => .ok []
  | step :: rest =>
    match step.call nested with
    | .error e => .error e
    | .ok call =>
      match namedCalls nested rest with
      | .error e => .error e
      | .ok calls => .ok (⟨step.name, call⟩ :: calls)

/-- The calls that a build emits; at least one. -/
def Build.calls (build : Build) (workflow : String) (nested : NestedCalls) :
    Except WorkflowError (List NamedCall) :=
  if build.emitted.isEmpty then .error (.emptySequence workflow)
  else namedCalls nested build.emittedSteps

/-- A build that has to be there. -/
def requireBuild (workflow : String) : Option Build → Except WorkflowError Build
  | some build => .ok build
  | none => .error (.notBuilt workflow)

/-- The outbound call of a build. -/
def Build.outbound (build : Build) (workflow : String) (encoder : Encoder) (nested : NestedCalls) :
    Except WorkflowError OutboundCall :=
  match build.calls workflow nested with
  | .error e => .error e
  | .ok calls =>
    match encoder.encodeArguments calls build.value with
    | .error e => .error e
    | .ok arguments =>
      .ok ⟨encoder.target, encoder.kind.function, encoder.kind.selector, arguments, build.value⟩

/-- The outbound call of the build that a cell holds. -/
def outboundOf (cells : Cells) (cell : CellId) (name : String) (encoder : Encoder) (nested : NestedCalls) :
    Except WorkflowError OutboundCall :=
  match requireBuild name (cells cell) with
  | .error e => .error e
  | .ok build => build.outbound name encoder nested

mutual

/-- The current call of a generator that is a workflow in a cell. -/
def Generator.callIn? {σ : Type} (cells : Cells) : Generator σ → CellId → Option (Except WorkflowError PreparedCall)
  | .leaf _ _, _ => none
  | .nested cell name encoder entries, wanted =>
    if cell = wanted then
      some ((outboundOf cells cell name encoder fun inner =>
        (nestedCall? cells entries inner).getD (.error (.notBuilt name))).map OutboundCall.prepared)
    else none

/-- The current call of the workflow in a cell among some entries. -/
def nestedCall? {σ : Type} (cells : Cells) :
    List (Entry (Generator σ)) → CellId → Option (Except WorkflowError PreparedCall)
  | [], _ => none
  | ⟨generator, _⟩ :: rest, wanted =>
    match generator.callIn? cells wanted with
    | some call => some call
    | none => nestedCall? cells rest wanted

end

namespace Workflow

variable {σ : Type}

/-- The current calls of the workflows nested in this one. -/
def nestedCalls (workflow : Workflow σ) (cells : Cells) : NestedCalls := fun cell =>
  (nestedCall? cells workflow.entries cell).getD (.error (.notBuilt workflow.name))

/-- The current build. -/
def current (workflow : Workflow σ) (cells : Cells) : Except WorkflowError Build :=
  requireBuild workflow.name (cells workflow.cell)

/-- The calls that the current build emits, with the names of their steps. -/
def preparedCalls (workflow : Workflow σ) (cells : Cells) : Except WorkflowError (List NamedCall) :=
  match workflow.current cells with
  | .error e => .error e
  | .ok build => build.calls workflow.name (workflow.nestedCalls cells)

/-- The outbound call of the current build. -/
def finalize (workflow : Workflow σ) (cells : Cells) : Except WorkflowError OutboundCall :=
  outboundOf cells workflow.cell workflow.name workflow.encoder (workflow.nestedCalls cells)

/-- The calldata of the current build. -/
def encode (workflow : Workflow σ) (cells : Cells) : Except WorkflowError Bytes :=
  (workflow.finalize cells).map OutboundCall.calldata

/-- The current build as one call of another sequence. -/
def prepare (workflow : Workflow σ) (cells : Cells) : Except WorkflowError PreparedCall :=
  (workflow.finalize cells).map OutboundCall.prepared

end Workflow

end CallWeave
