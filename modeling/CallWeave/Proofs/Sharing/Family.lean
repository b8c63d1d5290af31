import CallWeave.Workflow.Plan

/-!
# Workflows inside workflows

The workflows that a plan holds at any depth, and the induction over plans. A workflow that is
shared stands in several places of a plan; what makes it one workflow is its cell. A plan is
*coherent* when no two different workflows in it have one cell. No workflow holds itself
(`Workflow.cell_ne_of_mem_nested`).
-/

namespace CallWeave

variable {σ : Type}

/-- A property of generators holds of all of them when it holds of leaves, and of a workflow as soon
as it holds of its generators. -/
theorem Generator.induction {motive : Generator σ → Prop} (leaf : ∀ name run, motive (.leaf name run))
    (nested : ∀ cell name encoder entries, (∀ entry ∈ entries, motive entry.generator) →
      motive (.nested cell name encoder entries)) : ∀ generator, motive generator
  | .leaf name run => leaf name run
  | .nested cell name encoder entries =>
    nested cell name encoder entries fun entry _ => Generator.induction leaf nested entry.generator
termination_by generator => sizeOf generator
decreasing_by
  rename_i isIn
  have := List.sizeOf_lt_of_mem isIn
  obtain ⟨generator, options⟩ := entry
  simp only [Generator.nested.sizeOf_spec, Entry.mk.sizeOf_spec] at this ⊢
  omega

mutual

/-- The workflows in a generator, from the outside in. -/
def Generator.workflows {σ : Type} : Generator σ → List (Workflow σ)
  | .leaf _ _ => []
  | .nested cell name encoder entries => ⟨cell, name, encoder, entries⟩ :: workflowsIn entries

/-- The workflows in the generators of some entries. -/
def workflowsIn {σ : Type} : List (Entry (Generator σ)) → List (Workflow σ)
  | [] => []
  | ⟨generator, _⟩ :: rest => generator.workflows ++ workflowsIn rest

end

/-- The cells of the workflows in a generator. -/
def Generator.cells (generator : Generator σ) : List CellId := generator.workflows.map Workflow.cell

theorem mem_workflowsIn {workflow : Workflow σ} {entries : List (Entry (Generator σ))} :
    workflow ∈ workflowsIn entries ↔ ∃ entry ∈ entries, workflow ∈ entry.generator.workflows := by
  induction entries with
  | nil => simp [workflowsIn]
  | cons entry rest ih => simp [workflowsIn, ih]

/-- A workflow in a generator is smaller than the generator. -/
theorem Generator.sizeOf_lt_of_mem_workflows {generator : Generator σ} :
    ∀ workflow ∈ generator.workflows, sizeOf workflow.entries < sizeOf generator := by
  induction generator using Generator.induction with
  | leaf => simp [workflows]
  | nested cell name encoder entries ih =>
    intro workflow isIn
    simp only [workflows, List.mem_cons] at isIn
    rw [Generator.nested.sizeOf_spec]
    rcases isIn with rfl | deeper
    · simp only
      omega
    · obtain ⟨entry, isEntry, deeper⟩ := mem_workflowsIn.mp deeper
      have inside := ih entry isEntry workflow deeper
      have isSmall := List.sizeOf_lt_of_mem isEntry
      obtain ⟨generator, options⟩ := entry
      simp only [Entry.mk.sizeOf_spec] at isSmall inside
      omega

namespace Workflow

variable {workflow inner : Workflow σ}

/-- The workflows that a workflow holds, at any depth. -/
def nested (workflow : Workflow σ) : List (Workflow σ) := workflowsIn workflow.entries

/-- A workflow and all that it holds. -/
def family (workflow : Workflow σ) : List (Workflow σ) := workflow :: workflow.nested

/-- One cell is one workflow, wherever it stands. -/
def Coherent (workflow : Workflow σ) : Prop :=
  ∀ one ∈ workflow.family, ∀ other ∈ workflow.family, one.cell = other.cell → one = other

theorem asGenerator_injective : Function.Injective (asGenerator (σ := σ)) := by
  rintro ⟨⟩ ⟨⟩ same
  cases same
  rfl

@[simp] theorem workflows_asGenerator (workflow : Workflow σ) :
    workflow.asGenerator.workflows = workflow.family := by
  rw [asGenerator, Generator.workflows]
  rfl

@[simp] theorem cells_asGenerator (workflow : Workflow σ) :
    workflow.asGenerator.cells = workflow.family.map Workflow.cell := by
  rw [Generator.cells, workflows_asGenerator]

/-- What an entry holds, the workflow of the entry holds. -/
theorem mem_nested_of_mem_entries {entry : Entry (Generator σ)} (isEntry : entry ∈ workflow.entries)
    (isIn : inner ∈ entry.generator.workflows) : inner ∈ workflow.nested :=
  mem_workflowsIn.mpr ⟨entry, isEntry, isIn⟩

/-- A workflow does not hold itself, so none that it holds has its cell. -/
theorem Coherent.cell_ne_of_mem_nested (coherent : workflow.Coherent) (isIn : inner ∈ workflow.nested) :
    inner.cell ≠ workflow.cell := by
  -- a workflow inside itself would be smaller than itself
  intro same
  obtain rfl := coherent inner (List.mem_cons_of_mem _ isIn) workflow List.mem_cons_self same
  obtain ⟨entry, isEntry, inside⟩ := mem_workflowsIn.mp isIn
  have isLess := Generator.sizeOf_lt_of_mem_workflows inner inside
  have isSmall := List.sizeOf_lt_of_mem isEntry
  obtain ⟨generator, options⟩ := entry
  simp only [Entry.mk.sizeOf_spec] at isSmall isLess
  omega

end Workflow

end CallWeave
