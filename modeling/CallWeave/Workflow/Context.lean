import CallWeave.Run.Data
import CallWeave.Run.Mode
import CallWeave.Step.Basic

/-!
# Run context and options

`RunContext` is what a generator sees of the build in progress. `StepOptions` says how a generator takes part:
under which tag its step can be found, whether it is left out, and whether it emits a call.
-/

namespace CallWeave

/-- Tags and the positions of their steps among the emitted ones, in the order of registration. -/
abbrev TagIndex := List (String × Nat)

/-- What a generator sees of the build in progress. -/
structure RunContext where
  mode : RunMode
  data : RunData
  /-- The steps built so far, in the order in which they were built. -/
  steps : List BuiltStep
  /-- The position that the step will take among the emitted ones; zero while walking backward. -/
  index : Nat
  /-- The name of the workflow. -/
  workflow : String
  /-- The tags registered so far; none while walking backward. -/
  tags : TagIndex

namespace RunContext

/-- The position of a tag's step among the emitted ones. -/
def findTag (context : RunContext) (tag : String) : Except WorkflowError Nat :=
  match context.tags.lookup tag with
  | some index => .ok index
  | none => .error (.tagNotFound tag)

/-- The step built last. -/
def previous? (context : RunContext) : Option BuiltStep := context.steps.getLast?

/-- The tolerance in the run data; the error names the step that asks. -/
def requireSlippage (context : RunContext) (step : String) : Except WorkflowError Float :=
  match context.data.slippage with
  | some percent => .ok percent
  | none => .error (.missingRunData step "slippage")

end RunContext

/-- Whether a generator is left out of a build. -/
inductive SkipRule where
  | never
  | always
  /-- Decided when its turn comes, from the running amount and the context. -/
  | when (holds : Uint256 → RunContext → Bool)

namespace SkipRule

/-- Always or never. -/
def ofBool (skip : Bool) : SkipRule := if skip then .always else .never

/-- Whether a rule leaves a generator out. -/
def applies (rule : SkipRule) (amount : Uint256) (context : RunContext) : Bool :=
  match rule with
  | .never => false
  | .always => true
  | .when holds => holds amount context

end SkipRule

/-- How a generator takes part in a workflow. -/
structure StepOptions where
  /-- The name under which the emitted step can be found. -/
  tag : Option String
  skip : SkipRule
  /-- The step is simulated but emits no call. -/
  onlyLocal : Bool
  /-- The step is only built in modes that need the full transaction. -/
  onlyExecute : Bool

/-- No tag, never left out, emitting in every mode. -/
def StepOptions.plain : StepOptions := ⟨none, .never, false, false⟩

/-- Whether a generator is left out in a mode, before its skip rule is asked. -/
def StepOptions.isDropped (options : StepOptions) (mode : RunMode) : Bool :=
  options.onlyExecute && !mode.isStatic

end CallWeave
