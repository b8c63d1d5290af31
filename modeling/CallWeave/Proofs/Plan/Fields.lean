import CallWeave.Proofs.Plan.Amounts
import CallWeave.Proofs.Plan.Funds

/-!
# The fields of a step

A step of a plan is one record for two kinds of steps. Those of a raw step all take effect where it is built
(`PlanLevel.TakesEffect`): the amount that it sets is the running amount behind it, its value is part of the value of
the level, and the call that is sent for it has its target and its clipboard, as far as the entry point has a place for
them. Of a step that holds a plan, the target, the amount, the value and the clipboard are read by nobody: a plan has one
workflow with and without them (`PlanDocument.workflowIn_bare`), and none is refused for having them.
-/

namespace CallWeave

variable {σ : Type}

namespace PlanDocument

variable {mode : RunMode} {plan : PlanDocument} {contracts : Contracts}

/-! ## Steps that hold plans -/

mutual

/-- A plan without the fields that are meant for raw steps, on the steps that hold plans, at any depth. -/
def bare : PlanDocument → PlanDocument
  | .mk workflow kind steps => .mk workflow kind (bareSteps steps)

/-- Some steps without those fields. -/
def bareSteps : List PlanStep → List PlanStep
  | [] => []
  | step :: rest => bareStep step.workflow step :: bareSteps rest

/-- A step without those fields, when it holds a plan. -/
def bareStep : Option PlanDocument → PlanStep → PlanStep
  | none, step => step
  | some inner, step =>
    { step with target := none, amountOut := none, value := none, clipboard := none, workflow := some inner.bare }

end

theorem workflow_bare (plan : PlanDocument) : plan.bare.workflow = plan.workflow := by
  obtain ⟨workflow, kind, steps⟩ := plan
  rw [bare]
  rfl

/-- The steps that hold plans become the same entries without those fields, when the plans become the same workflows. -/
theorem entriesFrom_bareSteps {steps : List PlanStep}
    (inside : ∀ step ∈ steps, ∀ inner ∈ step.workflow, ∀ (cell : CellId) (name : String),
      (inner.bare.workflowIn contracts cell name : Except PlanError (Workflow σ)) = inner.workflowIn contracts cell name)
    (cell : CellId) (position : Nat) :
    (entriesFrom contracts (bareSteps steps) cell position : Except PlanError (List (Entry (Generator σ)))) =
      entriesFrom contracts steps cell position := by
  induction steps generalizing position with
  | nil => rw [bareSteps]
  | cons step rest ih =>
    have ih := ih (fun other isIn => inside other (List.mem_cons_of_mem _ isIn)) (position + 1)
    have inside := inside step List.mem_cons_self
    cases holds : step.workflow with
    | none => simp only [bareSteps, holds, bareStep, entriesFrom, ih]
    | some inner =>
      have same := inside inner holds
      -- what is asked of the step is there with and without the fields: a raw call is made of no step with a plan
      simp only [bareSteps, holds, bareStep, entriesFrom, nestedIn, workflow_bare, same, ih]
      generalize (inner.workflowIn contracts (position :: cell) (inner.workflow.getD step.name) :
        Except PlanError (Workflow σ)) = nested
      cases step.callData <;> cases nested <;> rfl

/-- A plan has one workflow with and without those fields, or it is refused for the same reason. -/
theorem workflowIn_bare (plan : PlanDocument) (cell : CellId) (name : String) :
    (plan.bare.workflowIn contracts cell name : Except PlanError (Workflow σ)) = plan.workflowIn contracts cell name := by
  induction plan using PlanDocument.induction generalizing cell name with
  | level plan ih =>
    obtain ⟨workflow, kind, steps⟩ := plan
    have inside : ∀ step ∈ steps, ∀ inner ∈ step.workflow, ∀ (cell : CellId) (name : String),
        (inner.bare.workflowIn contracts cell name : Except PlanError (Workflow σ)) =
          inner.workflowIn contracts cell name := fun step isStep inner holds => ih step isStep inner holds
    rw [bare, workflowIn, workflowIn, entriesFrom_bareSteps inside]

/-! ## Raw steps -/

/-- The amount behind a raw step that is built is the one that it sets, or the one in front of it. -/
theorem amountsBehind_of_flat {place : Nat} {step : PlanStep} (isStep : plan.steps[place]? = some step)
    (takesPart : step.takesPart mode = true) (flat : step.workflow = none) (start : Uint256) :
    amountsBehind mode (plan.steps.take (place + 1)) start =
      step.amountOut.getD (amountsBehind mode (plan.steps.take place) start) := by
  rw [amountsBehind_take_succ isStep, amountsBehind_singleton, if_pos takesPart, flat, amountLeft]

/-- The value of some steps is that of one of them and that of the others. -/
theorem valuesIn_eraseIdx {steps : List PlanStep} {place : Nat} {step : PlanStep} (isStep : steps[place]? = some step)
    (takesPart : step.takesPart mode = true) :
    valuesIn mode steps = valueOf mode step.workflow step.value + valuesIn mode (steps.eraseIdx place) := by
  induction steps generalizing place with
  | nil => simp at isStep
  | cons first rest ih =>
    cases place with
    | zero =>
      obtain rfl : first = step := by simpa using isStep
      rw [List.eraseIdx_cons_zero, valuesIn, if_pos takesPart]
    | succ place =>
      rw [List.eraseIdx_cons_succ, valuesIn, valuesIn, ih (by simpa using isStep)]
      ac_rfl

/-- Calldata that carry a plan have, at the position of a raw step, the call of the step. -/
theorem CarriedBy.call_of_flat {data : Bytes} (carried : plan.CarriedBy contracts mode data) {position place : Nat}
    {step : PlanStep} (isSent : (plan.sent mode)[position]? = some (step, place)) (flat : step.workflow = none) :
    ∃ calls value callData clipboard, plan.kind.readArguments (data.drop 4) = .ok (calls, value) ∧
      step.callData = some callData ∧
      step.clipboardSeeing (tagsSeen mode (plan.steps.take place)) = .ok clipboard ∧
      calls[position]? = some (plan.kind.carried ⟨step.target, callData, clipboard⟩) := by
  obtain ⟨reads, each, raw, -, -⟩ := carried
  have length : plan.kind.selector.length = 4 := by cases plan.kind <;> rfl
  rw [List.drop_left' length]
  have isLess := each ▸ (List.getElem?_eq_some_iff.mp isSent).1
  have isThere := List.getElem?_eq_getElem isLess
  obtain ⟨callData, clipboard, data, resolved, isCall⟩ := raw position step place _ isSent isThere flat
  exact ⟨_, _, callData, clipboard, reads, data, resolved, isThere.trans (congrArg some isCall)⟩

end PlanDocument

namespace PlanLevel

variable {contracts : Contracts} {workflow : Workflow σ} {mode : RunMode}

/-- What a raw step at a place does to its level, which is built from an amount. -/
structure TakesEffect (mode : RunMode) (start : Uint256) (level : PlanLevel) (workflow : Workflow σ) (cells : Cells)
    (place : Nat) (step : PlanStep) : Prop where
  /-- The amount behind it is the one that it sets, or the one in front of it. -/
  amountOut : PlanDocument.amountsBehind mode (level.plan.steps.take (place + 1)) start =
    step.amountOut.getD (PlanDocument.amountsBehind mode (level.plan.steps.take place) start)
  /-- Its value is added to that of the other steps. -/
  value : workflow.value cells =
    step.value.getD 0 + PlanDocument.valuesIn mode (level.plan.steps.eraseIdx place)
  /-- When it is sent, its call is written with its target and with the clipboard that the tags in front of it resolve
  to. -/
  call : ∀ (position : Nat) (call : OutboundCall), (level.plan.sent mode)[position]? = some (step, place) →
    workflow.finalize cells = .ok call → call.calldata.length < 2 ^ 64 →
    ∃ calls value callData clipboard,
      level.plan.kind.readArguments (call.calldata.drop 4) = .ok (calls, value) ∧ step.callData = some callData ∧
      step.clipboardSeeing (PlanDocument.tagsSeen mode (level.plan.steps.take place)) = .ok clipboard ∧
      calls[position]? = some (level.plan.kind.carried ⟨step.target, callData, clipboard⟩)

/-- Where a level stands, every raw step that is built takes effect. -/
theorem Stands.takesEffect {level : PlanLevel} {cells : Cells} (stands : level.Stands mode cells)
    (accepted : level.workflow contracts = .ok workflow) {place : Nat} {step : PlanStep}
    (isStep : level.plan.steps[place]? = some step) (takesPart : step.takesPart mode = true)
    (flat : step.workflow = none) (start : Uint256) :
    level.TakesEffect mode start workflow cells place step := by
  refine ⟨PlanDocument.amountsBehind_of_flat isStep takesPart flat start, ?_, ?_⟩
  · obtain ⟨build, isBuild, kept⟩ := stands _ .self
    rw [Workflow.value, Workflow.currentOrEmpty, (describes accepted).cell, isBuild, Option.getD_some, kept.value,
      PlanDocument.valueIn_eq, PlanDocument.valuesIn_eraseIdx isStep takesPart, flat, PlanDocument.valueOf]
  · intro position call isSent finalized held
    exact (carriedBy_of_stands accepted stands finalized held).call_of_flat isSent flat

/-- Of a plan that is accepted, the steps that hold plans could as well do without the target, the amount, the value and
the clipboard that they set, at any depth: the workflow is the same. After a build that goes forward, at every level
that it reached, the running amounts are those of the plan, and every raw step that was built takes effect with all
its fields. -/
theorem raw_fields_take_effect {plan : PlanDocument} {cell : CellId}
    (accepted : plan.toWorkflow contracts cell = .ok workflow) {amount : Uint256} {data : RunData}
    {world after : World σ} {out : Uint256} (forward : mode.isReversed = false)
    (ok : workflow.build amount mode data world = (.ok out, after)) :
    plan.bare.toWorkflow contracts cell = .ok workflow ∧
    ∀ (deep : PlanLevel) (start : Uint256), BuildsFrom mode (root plan cell) amount deep start →
      ∃ below : Workflow σ, deep.workflow contracts = .ok below ∧
        below.amountOut after.cells = .ok (deep.plan.amountBehind mode start) ∧
        below.summary after.cells = deep.plan.summaryIn mode start ∧
        ∀ (place : Nat) (step : PlanStep), deep.plan.steps[place]? = some step → step.takesPart mode = true →
          step.workflow = none → deep.TakesEffect mode start below after.cells place step := by
  refine ⟨?_, fun deep start builds => ?_⟩
  · rw [PlanDocument.toWorkflow, PlanDocument.workflowIn_bare, PlanDocument.name, PlanDocument.workflow_bare]
    exact accepted
  · have accepted : (root plan cell).workflow contracts = .ok workflow := accepted
    obtain ⟨build, -, built⟩ := Workflow.build_ok ok
    obtain ⟨below, inside, accepted', isBuild, counted⟩ := counted_of_buildFor accepted built forward builds
    have current : after.cells below.cell = some inside := (describes accepted').cell ▸ isBuild
    have stands := (stands_of_buildFor accepted built).reached builds.reaches
    refine ⟨below, accepted', ?_, ?_, fun place step isStep takesPart flat => ?_⟩
    · rw [Workflow.amountOut, Workflow.current, current, ← counted.amountOut]
      rfl
    · rw [Workflow.summary, Workflow.currentOrEmpty, current, ← counted.summary]
      rfl
    · exact stands.takesEffect accepted' isStep takesPart flat start

/-- A plan inside another, on a step that sets all fields, between raw steps. -/
def overriddenPlan : PlanDocument :=
  let call (name : String) (amountOut value : Option Uint256) (clipboard : Option PlanClipboard) : PlanStep :=
    ⟨name, some [1], some ⟨7⟩, some name, false, false, false, amountOut, value, clipboard, none⟩
  let paste (tag : String) : PlanClipboard := .fromTag tag (some 0) 1
  .mk none .advancedPipe
    [call "claim" (some 500) (some 5) none,
      { call "pipe" (some 800) (some 9) (some (paste "claim")) with
        callData := none, workflow := some (.mk none .advancedFarm [call "wrap" (some 300) (some 2) none]) },
      call "deposit" none none (some (paste "pipe"))]

/-- The raw steps take effect: the first on the outer level, and the one of the inner level, which is built from the
amount that the first one sets. -/
theorem overriddenPlan_raw_fields :
    ∃ (workflow inner : Workflow Unit) (after : World Unit) (step wrap : PlanStep) (pipe : PlanDocument),
      overriddenPlan.toWorkflow default [] = .ok workflow ∧ RunMode.forward.isReversed = false ∧
      workflow.build 1 .forward .empty (.start ()) = (.ok 300, after) ∧
      overriddenPlan.bare.toWorkflow default [] = .ok workflow ∧
      workflow.summary after.cells = [("claim", 500), ("pipe", 300), ("deposit", 300)] ∧
      overriddenPlan.steps[0]? = some step ∧
      (root overriddenPlan []).TakesEffect .forward 1 workflow after.cells 0 step ∧
      inner.amountOut after.cells = .ok 300 ∧ pipe.steps[0]? = some wrap ∧
      PlanLevel.TakesEffect .forward 500 ⟨pipe, [1], "pipe"⟩ inner after.cells 0 wrap := by
  obtain ⟨workflow, after, accepted, ok⟩ :
      ∃ (workflow : Workflow Unit) (after : World Unit), overriddenPlan.toWorkflow default [] = .ok workflow ∧
        workflow.build 1 .forward .empty (.start ()) = (.ok 300, after) := ⟨_, _, rfl, rfl⟩
  obtain ⟨bare, levels⟩ := raw_fields_take_effect accepted rfl ok
  obtain ⟨same, isSame, -, summary, takeEffect⟩ := levels _ _ .self
  obtain rfl := Except.ok.inj (isSame.symm.trans accepted)
  have reached : BuildsFrom .forward (root overriddenPlan []) 1
      ((root overriddenPlan []).inside 1 _ _) (PlanDocument.amountsBehind .forward (overriddenPlan.steps.take 1) 1) :=
    .within rfl rfl rfl .self
  obtain ⟨inner, -, amountOut, -, takeEffect'⟩ := levels _ _ reached
  exact ⟨same, inner, after, _, _, _, accepted, rfl, ok, bare, summary, rfl, takeEffect 0 _ rfl rfl rfl, amountOut, rfl,
    takeEffect' 0 _ rfl rfl rfl⟩

/-- The step that holds the plan sets an amount, a value, a target and a clipboard, and nothing becomes of them: the amount
behind it and its value are those of the plan, and its call enters the contract of the plan without a clipboard. -/
theorem overriddenPlan_fields_dropped :
    ∃ (workflow : Workflow Unit) (after : World Unit) (pipe : PlanStep),
      overriddenPlan.steps[1]? = some pipe ∧ pipe.amountOut = some 800 ∧ pipe.value = some 9 ∧
      pipe.target = some ⟨7⟩ ∧ pipe.clipboard.isSome = true ∧
      overriddenPlan.toWorkflow default [] = .ok workflow ∧
      workflow.build 1 .forward .empty (.start ()) = (.ok 300, after) ∧
      workflow.summary after.cells = [("claim", 500), ("pipe", 300), ("deposit", 300)] ∧
      workflow.value after.cells = 7 ∧
      (workflow.preparedCalls after.cells).toOption.map
          (List.map fun named => (named.step, named.call.target, named.call.clipboard.isSome)) =
        some [("claim", some ⟨7⟩, false), ("pipe", some (Contracts.entry default .advancedFarm), false),
          ("deposit", some ⟨7⟩, true)] ∧
      Contracts.entry default .advancedFarm ≠ ⟨7⟩ :=
  ⟨_, _, _, rfl, rfl, rfl, rfl, rfl, rfl, rfl, rfl, rfl, by decide +kernel, by decide⟩

end PlanLevel

end CallWeave
