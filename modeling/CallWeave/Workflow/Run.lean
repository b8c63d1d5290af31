import CallWeave.Workflow.Plan

/-!
# Building

A build asks the generators one after another; the amount that one leaves is the amount that the next gets.
Going forward, each step is recorded as soon as it is made, so later generators see its tag. Going backward,
the generators are asked from the last to the first, the amount flows from the desired output to the input
it takes, and the steps are recorded afterwards in insertion order.

The builds of all workflows are kept in cells. A build first clears its workflow's cell and fills it only
when it succeeds, so a failed build leaves its workflow unbuilt.
-/

namespace CallWeave

/-- The current builds, by cell. -/
abbrev Cells := CellId → Option Build

/-- The cells with one of them changed. -/
def Cells.set (cells : Cells) (cell : CellId) (build : Option Build) : Cells :=
  fun other => if other = cell then build else cells other

/-- The current builds and the world outside. -/
structure World (σ : Type) where
  cells : Cells
  outside : σ

namespace World

variable {σ : Type}

/-- No workflow is built. -/
def start (outside : σ) : World σ := ⟨fun _ => none, outside⟩

/-- Forgets the build in a cell. -/
def clear (world : World σ) (cell : CellId) : World σ := ⟨world.cells.set cell none, world.outside⟩

/-- Keeps a build in a cell. -/
def store (world : World σ) (cell : CellId) (build : Build) : World σ :=
  ⟨world.cells.set cell (some build), world.outside⟩

end World

/-- What all generators of one build are asked for. -/
structure Purpose where
  mode : RunMode
  data : RunData

/-- The context of the next step while walking forward. -/
def Purpose.forwardContext (purpose : Purpose) (workflow : String) (build : Build) : RunContext :=
  ⟨purpose.mode, purpose.data, build.steps, build.emitted.length, workflow, build.tags⟩

/-- The context of the next step while walking backward; `later` are the steps behind it. -/
def Purpose.backwardContext (purpose : Purpose) (workflow : String) (later : List (BuiltStep × StepOptions)) :
    RunContext :=
  ⟨purpose.mode, purpose.data, (later.map (·.1)).reverse, 0, workflow, []⟩

/-- Whether a generator takes no part when its turn comes. -/
def StepOptions.leavesOut (options : StepOptions) (amount : Uint256) (context : RunContext) : Bool :=
  options.isDropped context.mode || options.skip.applies amount context

/-- The outcome of a walk backward: the amount at the front, and the steps in insertion order. -/
abbrev BackwardWalk := Uint256 × List (BuiltStep × StepOptions)

/-- The build of a walk backward: its steps are recorded now. -/
def BackwardWalk.build (name : String) (walk : BackwardWalk) : Except WorkflowError Build :=
  (Build.recordAll name walk.2 .empty).map fun build => { build with amountOut := walk.1 }

/-- Clears a cell, walks in the direction of the mode and keeps the build that comes of it. -/
def buildInto {σ : Type} (purpose : Purpose) (cell : CellId) (name : String)
    (forward : World σ → Except WorkflowError Build × World σ)
    (backward : World σ → Except WorkflowError BackwardWalk × World σ) (world : World σ) :
    Except WorkflowError Build × World σ :=
  let result :=
    if purpose.mode.isReversed then
      match backward (world.clear cell) with
      | (.error e, after) => (.error e, after)
      | (.ok walk, after) => (BackwardWalk.build name walk, after)
    else forward (world.clear cell)
  match result with
  | (.error e, after) => (.error e, after)
  | (.ok build, after) => (.ok build, after.store cell build)

mutual

/-- Asks a generator for its step. -/
def Generator.run {σ : Type} (purpose : Purpose) :
    Generator σ → Uint256 → RunContext → World σ → Except WorkflowError BuiltStep × World σ
  | .leaf name run, amount, context, world =>
    match run amount context world.outside with
    | (.error e, outside) => (.error e, ⟨world.cells, outside⟩)
    | (.ok output, outside) => (.ok (.own (output.toStep name amount)), ⟨world.cells, outside⟩)
  | .nested cell name _ entries, amount, _, world =>
    match buildInto purpose cell name (fun w => walk purpose name entries amount .empty w)
        (fun w => walkBack purpose name entries amount w) world with
    | (.error e, after) => (.error e, after)
    | (.ok build, after) => (.ok (.nested cell name build.amountOut build.value), after)

/-- Asks the generators from the first to the last. -/
def walk {σ : Type} (purpose : Purpose) (name : String) :
    List (Entry (Generator σ)) → Uint256 → Build → World σ → Except WorkflowError Build × World σ
  | [], amount, build, world => (.ok { build with amountOut := amount }, world)
  | ⟨generator, options⟩ :: rest, amount, build, world =>
    let context := purpose.forwardContext name build
    if options.leavesOut amount context then walk purpose name rest amount build world
    else match generator.run purpose amount context world with
      | (.error e, after) => (.error (.stepFailed name generator.name e), after)
      | (.ok step, after) =>
        match build.record name options step with
        | .error e => (.error e, after)
        | .ok build => walk purpose name rest step.amountOut build after

/-- Asks the generators from the last to the first. -/
def walkBack {σ : Type} (purpose : Purpose) (name : String) :
    List (Entry (Generator σ)) → Uint256 → World σ → Except WorkflowError BackwardWalk × World σ
  | [], amount, world => (.ok (amount, []), world)
  | ⟨generator, options⟩ :: rest, amount, world =>
    match walkBack purpose name rest amount world with
    | (.error e, after) => (.error e, after)
    | (.ok (amount, later), after) =>
      let context := purpose.backwardContext name later
      if options.leavesOut amount context then (.ok (amount, later), after)
      else match generator.run purpose amount context after with
        | (.error e, after) => (.error (.stepFailed name generator.name e), after)
        | (.ok step, after) => (.ok (step.amountOut, (step, options) :: later), after)

end

namespace Workflow

variable {σ : Type}

/-- Builds a workflow and keeps the build in its cell. -/
def buildFor (workflow : Workflow σ) (purpose : Purpose) (amount : Uint256) (world : World σ) :
    Except WorkflowError Build × World σ :=
  buildInto purpose workflow.cell workflow.name
    (fun w => walk purpose workflow.name workflow.entries amount .empty w)
    (fun w => walkBack purpose workflow.name workflow.entries amount w) world

/-- Builds a workflow; the answer is the running amount at the end. -/
def build (workflow : Workflow σ) (amount : Uint256) (mode : RunMode) (data : RunData) (world : World σ) :
    Except WorkflowError Uint256 × World σ :=
  match workflow.buildFor ⟨mode, data⟩ amount world with
  | (.error e, after) => (.error e, after)
  | (.ok built, after) => (.ok built.amountOut, after)

/-- Builds forward without run data. -/
def estimate (workflow : Workflow σ) (amount : Uint256) (world : World σ) : Except WorkflowError Uint256 × World σ :=
  workflow.build amount .forward .empty world

/-- The input that a desired output takes. -/
def estimateReversed (workflow : Workflow σ) (amount : Uint256) (world : World σ) :
    Except WorkflowError Uint256 × World σ :=
  workflow.build amount .reversed .empty world

end Workflow

end CallWeave
