import CallWeave.Workflow.Build
import CallWeave.Workflow.Encoder

/-!
# Plans

A workflow is a named list of generators behind an entry point. A generator either answers by itself, from
the running amount, the context and the outside world, or it is a whole workflow. A workflow that is shared
between several others keeps one cell for its build; copying gives it another.
-/

namespace CallWeave

/-- A generator and how it takes part. -/
structure Entry (γ : Type) where
  generator : γ
  options : StepOptions

/-- What a generator does that answers by itself, in an outside world of type `σ`. -/
abbrev StepRun (σ : Type) := Uint256 → RunContext → σ → Except WorkflowError StepOutput × σ

/-- Produces one step of a workflow. -/
inductive Generator (σ : Type) where
  | leaf (name : String) (run : StepRun σ)
  | nested (cell : CellId) (name : String) (encoder : Encoder) (entries : List (Entry (Generator σ)))

/-- A named list of generators behind an entry point. -/
structure Workflow (σ : Type) where
  /-- Where its current build is kept. -/
  cell : CellId
  name : String
  encoder : Encoder
  entries : List (Entry (Generator σ))

/-- The name under which a generator is known. -/
def Generator.name {σ : Type} : Generator σ → String
  | .leaf name _ => name
  | .nested _ name _ _ => name

/-- A generator that leaves the outside world alone. -/
def Generator.pure {σ : Type} (name : String) (run : Uint256 → RunContext → Except WorkflowError StepOutput) :
    Generator σ :=
  .leaf name fun amount context outside => (run amount context, outside)

/-- A generator or a group of them, to any depth. -/
inductive GeneratorGroup (σ : Type) where
  | one (generator : Generator σ)
  | group (members : List (GeneratorGroup σ))

mutual

/-- The generators of a group from left to right. -/
def GeneratorGroup.flatten {σ : Type} : GeneratorGroup σ → List (Generator σ)
  | .one generator => [generator]
  | .group members => GeneratorGroup.flattenAll members

/-- The generators of several groups. -/
def GeneratorGroup.flattenAll {σ : Type} : List (GeneratorGroup σ) → List (Generator σ)
  | [] => []
  | first :: rest => first.flatten ++ GeneratorGroup.flattenAll rest

end

namespace Workflow

variable {σ : Type}

/-- A workflow without generators. -/
def new (cell : CellId) (name : String) (encoder : Encoder) : Workflow σ := ⟨cell, name, encoder, []⟩

/-- Adds a generator or every generator of a group, all under the same options. -/
def add (workflow : Workflow σ) (input : GeneratorGroup σ) (options : StepOptions) : Workflow σ :=
  { workflow with entries := workflow.entries ++ input.flatten.map fun generator => ⟨generator, options⟩ }

/-- The same plan with a build of its own. -/
def copy (workflow : Workflow σ) (cell : CellId) : Workflow σ := { workflow with cell := cell }

/-- The workflow as a generator of another. -/
def asGenerator (workflow : Workflow σ) : Generator σ :=
  .nested workflow.cell workflow.name workflow.encoder workflow.entries

/-- The names of the generators in order. -/
def generatorNames (workflow : Workflow σ) : List String :=
  workflow.entries.map fun entry => entry.generator.name

end Workflow

end CallWeave
