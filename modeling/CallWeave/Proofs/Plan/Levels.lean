import CallWeave.Plan.Workflow
import CallWeave.Proofs.Sharing.Family
import Mathlib.Data.List.Forall2

/-!
# Levels of a plan

A plan stands at a *level*: in a cell and under a name. A plan that is accepted becomes a workflow step
by step (`PlanLevel.describes`), and a nested plan stands one level below. Its cell is the place of its step
in front of the outer cell, so cells are addresses: what lies below a step has an address that ends in that
of the step (`PlanLevel.suffix_of_mem_family`). Two levels never share a cell
(`PlanLevel.coherent_of_accepted`).
-/

namespace CallWeave

variable {σ : Type}

/-! ## Plans inside plans -/

/-- Where one list goes along with another, what stands at a place of the one has its like in the other. -/
theorem exists_of_forall₂ {α β : Type} {R : α → β → Prop} {as : List α} {bs : List β} (all : List.Forall₂ R as bs)
    {place : Nat} {a : α} (isThere : as[place]? = some a) : ∃ b, bs[place]? = some b ∧ R a b := by
  obtain ⟨isLess, rfl⟩ := List.getElem?_eq_some_iff.mp isThere
  have isLess' : place < bs.length := all.length_eq ▸ isLess
  exact ⟨bs[place], List.getElem?_eq_getElem isLess', all.get isLess isLess'⟩

/-- A property of plans holds of all of them when it holds of a plan as soon as it holds of those that its
steps hold. -/
theorem PlanDocument.induction {motive : PlanDocument → Prop}
    (level : ∀ plan, (∀ step ∈ plan.steps, ∀ inner ∈ step.workflow, motive inner) → motive plan) :
    ∀ plan, motive plan
  | .mk workflow kind steps => level (.mk workflow kind steps) fun _ _ inner _ =>
    PlanDocument.induction level inner
termination_by plan => sizeOf plan
decreasing_by
  rename_i step isIn isInner
  have isSmall := List.sizeOf_lt_of_mem isIn
  obtain ⟨name, callData, target, tag, skip, onlyLocal, onlyExecute, amountOut, value, clipboard, nested⟩ := step
  obtain rfl : nested = some inner := isInner
  simp only [PlanDocument.steps, PlanStepOf.mk.sizeOf_spec, Option.some.sizeOf_spec, PlanDocument.mk.sizeOf_spec]
    at isSmall ⊢
  omega

namespace PlanDocument

mutual

/-- A plan and the plans in it, at any depth. -/
def levels : PlanDocument → List PlanDocument
  | .mk workflow kind steps => .mk workflow kind steps :: levelsIn steps

/-- The plans in some steps, at any depth. -/
def levelsIn : List PlanStep → List PlanDocument
  | [] => []
  | step :: rest => levelsOf step.workflow ++ levelsIn rest

/-- A plan that may be missing, and the plans in it. -/
def levelsOf : Option PlanDocument → List PlanDocument
  | none => []
  | some plan => plan.levels

end

theorem self_mem_levels (plan : PlanDocument) : plan ∈ plan.levels := by
  obtain ⟨workflow, kind, steps⟩ := plan
  simp [levels]

/-- What a nested plan holds, the outer one holds. -/
theorem levels_subset {plan inner : PlanDocument} {step : PlanStep} (isStep : step ∈ plan.steps)
    (holds : step.workflow = some inner) : inner.levels ⊆ plan.levels := by
  obtain ⟨workflow, kind, steps⟩ := plan
  have inSteps : ∀ steps : List PlanStep, step ∈ steps → inner.levels ⊆ levelsIn steps := by
    intro steps isStep
    induction steps with
    | nil => cases isStep
    | cons first rest ih =>
      rw [levelsIn]
      rcases List.mem_cons.mp isStep with rfl | later
      · rw [holds, levelsOf]
        exact List.subset_append_left _ _
      · exact List.Subset.trans (ih later) (List.subset_append_right _ _)
  rw [levels]
  exact List.Subset.trans (inSteps steps isStep) (List.subset_cons_self _ _)

theorem mem_levelsIn {steps : List PlanStep} {deep : PlanDocument} :
    deep ∈ levelsIn steps ↔ ∃ step ∈ steps, ∃ inner ∈ step.workflow, deep ∈ inner.levels := by
  induction steps with
  | nil => simp [levelsIn]
  | cons step rest ih =>
    rw [levelsIn, List.mem_append, ih, List.exists_mem_cons_iff]
    cases step.workflow <;> simp [levelsOf]

/-- Something holds of every step at every depth when it holds of a plan's own steps and of those of the plans that
they hold. -/
theorem forall_levels_iff {plan : PlanDocument} {motive : PlanStep → Prop} :
    (∀ deep ∈ plan.levels, ∀ step ∈ deep.steps, motive step) ↔
      ∀ step ∈ plan.steps, motive step ∧ ∀ inner ∈ step.workflow, ∀ deep ∈ inner.levels, ∀ step ∈ deep.steps,
        motive step := by
  obtain ⟨workflow, kind, steps⟩ := plan
  simp only [levels, List.forall_mem_cons, mem_levelsIn, PlanDocument.steps]
  constructor
  · rintro ⟨own, deeper⟩ step isStep
    exact ⟨own step isStep, fun inner holds deep isIn => deeper deep ⟨step, isStep, inner, holds, isIn⟩⟩
  · intro each
    refine ⟨fun step isStep => (each step isStep).1, ?_⟩
    rintro deep ⟨step, isStep, inner, holds, isIn⟩
    exact (each step isStep).2 inner holds deep isIn

end PlanDocument

/-! ## Steps and entries -/

/-- A plan in a cell and under a name. -/
structure PlanLevel where
  plan : PlanDocument
  cell : CellId
  name : String

namespace PlanLevel

/-- The level that a document stands at. -/
def root (plan : PlanDocument) (cell : CellId) : PlanLevel := ⟨plan, cell, plan.name⟩

/-- The level of a plan that a step holds. -/
def inside (level : PlanLevel) (place : Nat) (step : PlanStep) (inner : PlanDocument) : PlanLevel :=
  ⟨inner, place :: level.cell, inner.workflow.getD step.name⟩

/-- A property of levels holds of all of them when it holds of a level as soon as it holds of those below. -/
theorem induction {motive : PlanLevel → Prop}
    (level : ∀ level : PlanLevel, (∀ (place : Nat) (step : PlanStep) (inner : PlanDocument),
      level.plan.steps[place]? = some step → step.workflow = some inner → motive (level.inside place step inner)) →
      motive level) (above : PlanLevel) : motive above := by
  obtain ⟨plan, cell, name⟩ := above
  induction plan using PlanDocument.induction generalizing cell name with
  | level plan ih =>
    exact level _ fun place step inner isStep holds => ih step (List.mem_of_getElem? isStep) inner holds _ _

/-- The workflow of a level. -/
def workflow (contracts : Contracts) (level : PlanLevel) : Except PlanError (Workflow σ) :=
  level.plan.workflowIn contracts level.cell level.name

/-- What a step of a level becomes: a raw call, or the workflow of the level below. -/
inductive Becomes (contracts : Contracts) (level : PlanLevel) (place : Nat) (step : PlanStep) :
    Generator σ → Prop
  | call {callData : Bytes} {raw : RawCall} (data : step.callData = some callData)
      (flat : step.workflow = none) (made : step.rawCall callData = .ok raw) :
      Becomes contracts level place step raw.generator
  | plan {inner : PlanDocument} {workflow : Workflow σ} (noData : step.callData = none)
      (holds : step.workflow = some inner)
      (accepted : (level.inside place step inner).workflow contracts = .ok workflow) :
      Becomes contracts level place step workflow.asGenerator

/-- The entry of a step at a place. -/
def EntryOf (contracts : Contracts) (level : PlanLevel) (placed : PlanStep × Nat)
    (entry : Entry (Generator σ)) : Prop :=
  entry.options = placed.1.options ∧ level.Becomes contracts placed.2 placed.1 entry.generator

/-- A workflow is the one of a level: it has its cell, its name and its entry point, and an entry for each
step. -/
structure Describes (contracts : Contracts) (level : PlanLevel) (workflow : Workflow σ) : Prop where
  cell : workflow.cell = level.cell
  name : workflow.name = level.name
  encoder : workflow.encoder = .ofContracts contracts level.plan.kind
  entries : List.Forall₂ (level.EntryOf contracts) level.plan.steps.zipIdx workflow.entries

variable {contracts : Contracts} {level : PlanLevel} {workflow : Workflow σ}

/-- Steps that are accepted become entries one by one. -/
theorem entriesFrom_ok {steps : List PlanStep} {position : Nat} {entries : List (Entry (Generator σ))}
    (accepted : PlanDocument.entriesFrom contracts steps level.cell position = .ok entries) :
    List.Forall₂ (level.EntryOf contracts) (steps.zipIdx position) entries := by
  induction steps generalizing position entries with
  | nil =>
    obtain rfl : [] = entries := by simpa [PlanDocument.entriesFrom] using accepted
    exact .nil
  | cons step rest ih =>
    have cons {generator : Generator σ} {behind : List (Entry (Generator σ))}
        (becomes : level.Becomes contracts position step generator)
        (made : PlanDocument.entriesFrom contracts rest level.cell (position + 1) = .ok behind) :
        List.Forall₂ (level.EntryOf contracts) ((step :: rest).zipIdx position)
          (⟨generator, step.options⟩ :: behind) := .cons ⟨rfl, becomes⟩ (ih made)
    -- exactly one of the calldata and the nested plan is there
    cases data : step.callData with
    | some callData =>
      cases nested : step.workflow with
      | some inner => simp [PlanDocument.entriesFrom, data, nested, PlanDocument.nestedIn] at accepted
      | none =>
        cases made : step.rawCall callData with
        | error e => simp [PlanDocument.entriesFrom, data, nested, PlanDocument.nestedIn, made, Except.map] at accepted
        | ok raw =>
          simp only [PlanDocument.entriesFrom, data, nested, PlanDocument.nestedIn, made, Except.map] at accepted
          split at accepted
          · cases accepted
          case h_2 madeBehind =>
            obtain rfl := Except.ok.inj accepted
            exact cons (.call data nested made) madeBehind
    | none =>
      cases nested : step.workflow with
      | none => simp [PlanDocument.entriesFrom, data, nested, PlanDocument.nestedIn] at accepted
      | some inner =>
        cases made : (inner.workflowIn contracts (position :: level.cell) (inner.workflow.getD step.name) :
            Except PlanError (Workflow σ)) with
        | error e => simp [PlanDocument.entriesFrom, data, nested, PlanDocument.nestedIn, made] at accepted
        | ok workflow =>
          simp only [PlanDocument.entriesFrom, data, nested, PlanDocument.nestedIn, made] at accepted
          split at accepted
          · cases accepted
          case h_2 madeBehind =>
            obtain rfl := Except.ok.inj accepted
            exact cons (.plan data nested made) madeBehind

/-- A level that is accepted describes its workflow. -/
theorem describes (accepted : level.workflow contracts = .ok workflow) : level.Describes contracts workflow := by
  obtain ⟨⟨_, kind, steps⟩, cell, name⟩ := level
  simp only [PlanLevel.workflow, PlanDocument.workflowIn] at accepted
  split at accepted
  · cases accepted
  case h_2 entries made =>
    obtain rfl := Except.ok.inj accepted
    exact ⟨rfl, rfl, rfl, entriesFrom_ok made⟩

/-- Steps are accepted when each of them becomes something. -/
theorem entriesFrom_of_becomes {steps : List PlanStep} {position : Nat}
    (becomes : ∀ (place : Nat) (step : PlanStep), steps[place]? = some step →
      ∃ generator : Generator σ, level.Becomes contracts (position + place) step generator) :
    ∃ entries : List (Entry (Generator σ)),
      PlanDocument.entriesFrom contracts steps level.cell position = .ok entries := by
  induction steps generalizing position with
  | nil => exact ⟨[], by rw [PlanDocument.entriesFrom]⟩
  | cons step rest ih =>
    have behind (place : Nat) (later : PlanStep) (isThere : rest[place]? = some later) :
        ∃ generator : Generator σ, level.Becomes contracts (position + 1 + place) later generator := by
      simpa only [Nat.add_assoc, Nat.add_comm 1] using becomes (place + 1) later isThere
    obtain ⟨entries, made⟩ := ih behind
    obtain ⟨generator, first⟩ := becomes 0 step rfl
    refine ⟨⟨generator, step.options⟩ :: entries, ?_⟩
    cases first with
    | call data flat isRaw =>
      simp only [PlanDocument.entriesFrom, data, flat, PlanDocument.nestedIn, isRaw, Except.map, made]
    | @plan inner below noData holds accepted =>
      have accepted : inner.workflowIn contracts (position :: level.cell) (inner.workflow.getD step.name) = .ok below :=
        accepted
      simp only [PlanDocument.entriesFrom, noData, holds, PlanDocument.nestedIn, accepted, made]

/-- A level is accepted exactly if each of its steps becomes something. -/
theorem exists_workflow_iff :
    (∃ workflow : Workflow σ, level.workflow contracts = .ok workflow) ↔
      ∀ (place : Nat) (step : PlanStep), level.plan.steps[place]? = some step →
        ∃ generator : Generator σ, level.Becomes contracts place step generator := by
  constructor
  · rintro ⟨workflow, accepted⟩ place step isStep
    have isPlaced : level.plan.steps.zipIdx[place]? = some (step, place) := by simp [isStep]
    obtain ⟨entry, -, -, becomes⟩ := exists_of_forall₂ (describes accepted).entries isPlaced
    exact ⟨entry.generator, becomes⟩
  · intro becomes
    have becomes (place : Nat) (step : PlanStep) (isStep : level.plan.steps[place]? = some step) :
        ∃ generator : Generator σ, level.Becomes contracts (0 + place) step generator := by
      simpa using becomes place step isStep
    obtain ⟨entries, made⟩ := entriesFrom_of_becomes becomes
    obtain ⟨⟨_, kind, steps⟩, cell, name⟩ := level
    have made : PlanDocument.entriesFrom contracts steps cell 0 = .ok entries := made
    exact ⟨⟨cell, name, .ofContracts contracts kind, entries⟩, by rw [PlanLevel.workflow, PlanDocument.workflowIn, made]⟩

/-- Every entry is that of a step of the plan at the same place. -/
theorem Describes.entry_at (describes : level.Describes contracts workflow) {place : Nat}
    {entry : Entry (Generator σ)} (isThere : workflow.entries[place]? = some entry) :
    ∃ step, level.plan.steps[place]? = some step ∧ level.EntryOf contracts (step, place) entry := by
  obtain ⟨placed, isPlaced, entryOf⟩ := exists_of_forall₂ describes.entries.flip isThere
  rw [List.getElem?_zipIdx, Nat.zero_add, Option.map_eq_some_iff] at isPlaced
  obtain ⟨step, isStep, rfl⟩ := isPlaced
  exact ⟨step, isStep, entryOf⟩

/-- Every entry stands at the place of a step of the plan. -/
theorem Describes.exists_step (describes : level.Describes contracts workflow) {entry : Entry (Generator σ)}
    (isEntry : entry ∈ workflow.entries) :
    ∃ place step, workflow.entries[place]? = some entry ∧ level.plan.steps[place]? = some step ∧
      level.EntryOf contracts (step, place) entry := by
  obtain ⟨place, isThere⟩ := List.mem_iff_getElem?.mp isEntry
  obtain ⟨step, isStep, entryOf⟩ := describes.entry_at isThere
  exact ⟨place, step, isThere, isStep, entryOf⟩

/-- A workflow in an entry lies in the workflow of the level below. -/
theorem EntryOf.mem_workflows {placed : PlanStep × Nat} {entry : Entry (Generator σ)}
    (entryOf : level.EntryOf contracts placed entry) {member : Workflow σ}
    (isIn : member ∈ entry.generator.workflows) :
    ∃ inner below, placed.1.workflow = some inner ∧
      (level.inside placed.2 placed.1 inner).workflow contracts = .ok below ∧ member ∈ below.family := by
  obtain ⟨-, becomes⟩ := entryOf
  revert isIn
  generalize entry.generator = generator at becomes
  cases becomes with
  | call => simp [RawCall.generator, Generator.pure, Generator.workflows]
  | @plan inner below _ holds accepted =>
    intro isIn
    rw [Workflow.workflows_asGenerator] at isIn
    exact ⟨inner, below, holds, accepted, isIn⟩

/-- What a workflow holds lies in the workflow of a level below. -/
theorem Describes.nested (described : level.Describes contracts workflow) {member : Workflow σ}
    (isNested : member ∈ workflow.nested) :
    ∃ place step inner below, level.plan.steps[place]? = some step ∧ step.workflow = some inner ∧
      (level.inside place step inner).workflow contracts = .ok below ∧ member ∈ below.family := by
  obtain ⟨entry, isEntry, isIn⟩ := mem_workflowsIn.mp isNested
  obtain ⟨place, step, -, isStep, entryOf⟩ := described.exists_step isEntry
  obtain ⟨inner, below, holds, accepted, isIn⟩ := entryOf.mem_workflows isIn
  exact ⟨place, step, inner, below, isStep, holds, accepted, isIn⟩

/-- The entry of a step with a nested plan is the workflow of the level below. -/
theorem EntryOf.nested {place : Nat} {step : PlanStep} {entry : Entry (Generator σ)} {inner : PlanDocument}
    (entryOf : level.EntryOf contracts (step, place) entry) (holds : step.workflow = some inner) :
    ∃ below : Workflow σ, entry.generator = below.asGenerator ∧
      (level.inside place step inner).workflow contracts = .ok below := by
  obtain ⟨-, becomes⟩ := entryOf
  generalize entry.generator = generator at becomes
  cases becomes with
  | call _ flat => simp [holds] at flat
  | @plan other below _ holds' accepted =>
    obtain rfl := Option.some.inj (holds.symm.trans holds')
    exact ⟨below, rfl, accepted⟩

/-- The step of a nested plan has an entry, which is the workflow of the level below. -/
theorem exists_entry_inside (accepted : level.workflow contracts = .ok workflow) {place : Nat} {step : PlanStep}
    {inner : PlanDocument} (isStep : level.plan.steps[place]? = some step) (holds : step.workflow = some inner) :
    ∃ (entry : Entry (Generator σ)) (below : Workflow σ), entry ∈ workflow.entries ∧
      entry.generator = below.asGenerator ∧ below.cell = place :: level.cell ∧
      (level.inside place step inner).workflow contracts = .ok below := by
  have isPlaced : level.plan.steps.zipIdx[place]? = some (step, place) := by simp [isStep]
  obtain ⟨entry, isThere, entryOf⟩ := exists_of_forall₂ (describes accepted).entries isPlaced
  obtain ⟨below, isBelow, accepted'⟩ := entryOf.nested holds
  exact ⟨entry, below, List.mem_of_getElem? isThere, isBelow, (describes accepted').cell, accepted'⟩

/-! ## Addresses -/

/-- Everything in the workflow of a level has a cell below that of the level. -/
theorem suffix_of_mem_family (accepted : level.workflow contracts = .ok workflow) :
    ∀ member ∈ workflow.family, level.cell <:+ member.cell := by
  induction level using PlanLevel.induction generalizing workflow with
  | level level ih =>
    have described := describes accepted
    intro member isMember
    rcases List.mem_cons.mp isMember with rfl | isNested
    · exact described.cell ▸ List.suffix_rfl
    · obtain ⟨place, step, inner, below, isStep, holds, accepted, isIn⟩ := described.nested isNested
      have deeper := ih place step inner isStep holds accepted member isIn
      exact (List.suffix_cons place level.cell).trans deeper

/-- What lies in the entry at a place has a cell below that place. -/
theorem EntryOf.suffix_of_mem_cells {place : Nat} {step : PlanStep} {entry : Entry (Generator σ)}
    (entryOf : level.EntryOf contracts (step, place) entry) {cell : CellId}
    (isIn : cell ∈ entry.generator.cells) : (place :: level.cell) <:+ cell := by
  obtain ⟨member, isMember, rfl⟩ := List.mem_map.mp isIn
  obtain ⟨inner, below, -, accepted, isMember⟩ := entryOf.mem_workflows isMember
  exact suffix_of_mem_family accepted member isMember

/-- An address lies below one place only. -/
theorem place_eq_of_suffix {place other : Nat} {cell deep : CellId} (one : (place :: cell) <:+ deep)
    (two : (other :: cell) <:+ deep) : place = other := by
  have same := List.suffix_of_suffix_length_le one two (by simp)
  exact (List.cons_eq_cons.mp (same.eq_of_length (by simp))).1

/-- A level does not lie below itself. -/
theorem ne_of_suffix {place : Nat} {cell deep : CellId} (below : (place :: cell) <:+ deep) : deep ≠ cell := by
  rintro rfl
  have := below.length_le
  rw [List.length_cons] at this
  omega

/-- No two levels of a plan have one cell. -/
theorem coherent_of_accepted (accepted : level.workflow contracts = .ok workflow) : workflow.Coherent := by
  induction level using PlanLevel.induction generalizing workflow with
  | level level ih =>
    have described := describes accepted
    have apart : ∀ member ∈ workflow.nested, member.cell ≠ workflow.cell := by
      intro member isNested
      obtain ⟨place, step, inner, below, -, -, accepted, isIn⟩ := described.nested isNested
      rw [described.cell]
      exact ne_of_suffix (suffix_of_mem_family accepted member isIn)
    intro one isOne other isOther same
    rcases List.mem_cons.mp isOne with rfl | oneNested <;> rcases List.mem_cons.mp isOther with rfl | otherNested
    · rfl
    · exact absurd same.symm (apart other otherNested)
    · exact absurd same (apart one oneNested)
    · obtain ⟨place, step, inner, below, isStep, holds, accepted, oneIn⟩ := described.nested oneNested
      obtain ⟨place', step', inner', below', isStep', holds', accepted', otherIn⟩ := described.nested otherNested
      have oneBelow := suffix_of_mem_family accepted one oneIn
      have otherBelow := suffix_of_mem_family accepted' other otherIn
      -- one cell lies below one place, so both are in the workflow of one level
      obtain rfl := place_eq_of_suffix oneBelow (same ▸ otherBelow)
      obtain rfl := Option.some.inj (isStep.symm.trans isStep')
      obtain rfl := Option.some.inj (holds.symm.trans holds')
      obtain rfl := Except.ok.inj (accepted.symm.trans accepted')
      exact ih place step inner isStep holds accepted one oneIn other otherIn same

end PlanLevel

end CallWeave
