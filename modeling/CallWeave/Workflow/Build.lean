import CallWeave.Workflow.Context

/-!
# Builds

A build holds every step in insertion order, which of them emit a call, the tags, and two totals. Steps are
added one by one with `record`: every step adds its value, but only one that emits a call takes a position
and a tag.
-/

namespace CallWeave

/-- What building a workflow leaves. -/
structure Build where
  /-- Every built step, local ones included. -/
  steps : List BuiltStep
  /-- The places in `steps` of the steps that emit a call. -/
  emitted : List Nat
  tags : TagIndex
  /-- The sum of the values of all steps, modulo 2^256. -/
  value : Uint256
  /-- The running amount at the end. -/
  amountOut : Uint256
deriving Inhabited

namespace Build

/-- A build without any step. -/
def empty : Build := ⟨[], [], [], 0, 0⟩

/-- The steps that emit a call. -/
def emittedSteps (build : Build) : List BuiltStep :=
  build.emitted.filterMap (build.steps[·]?)

/-- Registers a tag for the next position among the emitted steps; a tag is registered once. -/
def registerTag (workflow : String) (tag : Option String) (build : Build) : Except WorkflowError TagIndex :=
  match tag with
  | none => .ok build.tags
  | some tag =>
    if (build.tags.lookup tag).isSome then .error (.duplicateTag workflow tag)
    else .ok (build.tags ++ [(tag, build.emitted.length)])

/-- Adds a step. -/
def record (workflow : String) (options : StepOptions) (step : BuiltStep) (build : Build) :
    Except WorkflowError Build :=
  let value := build.value + step.value.getD 0
  let steps := build.steps ++ [step]
  if options.onlyLocal then .ok { build with steps := steps, value := value }
  else match build.registerTag workflow options.tag with
    | .error e => .error e
    | .ok tags =>
      .ok { build with
        steps := steps, emitted := build.emitted ++ [build.steps.length], tags := tags, value := value }

/-- Adds steps in order. -/
def recordAll (workflow : String) : List (BuiltStep × StepOptions) → Build → Except WorkflowError Build
  | [], build => .ok build
  | (step, options) :: rest, build =>
    match build.record workflow options step with
    | .error e => .error e
    | .ok build => recordAll workflow rest build

end Build

end CallWeave
