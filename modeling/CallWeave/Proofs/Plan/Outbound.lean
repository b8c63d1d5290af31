import CallWeave.Proofs.Plan.Calldata

/-!
# The outbound call of a plan

After a build that succeeded, what `finalize` answers can be said from the plan and the mode alone: neither
the amount and the run data, nor what was built before, has a part in it. `PlanDocument.outboundIn` goes
through the plan from the outer level to the inner ones, and says so for the call as well as for the error
(`PlanLevel.finalize_eq_outboundIn`).
-/

namespace CallWeave

variable {σ : Type}

namespace PlanDocument

mutual

/-- The outbound call of a plan in a mode, the workflow having a name. -/
def outboundIn (contracts : Contracts) (mode : RunMode) : PlanDocument → (name : String) →
    Except WorkflowError OutboundCall
  | .mk _ kind steps, name =>
    if (steps.filter (·.isSent mode)).isEmpty then .error (.emptySequence name)
    else match callsIn contracts mode steps [] with
      | .error e => .error e
      | .ok calls =>
        let encoder := Encoder.ofContracts contracts kind
        match encoder.encodeArguments calls (valuesIn mode steps) with
        | .error e => .error e
        | .ok arguments =>
          .ok ⟨encoder.target, encoder.kind.function, encoder.kind.selector, arguments, valuesIn mode steps⟩

/-- The calls of the sent ones among some steps that stand behind others. -/
def callsIn (contracts : Contracts) (mode : RunMode) : List PlanStep → (before : List PlanStep) →
    Except WorkflowError (List NamedCall)
  | [], _ => .ok []
  | step :: rest, before =>
    if step.isSent mode then
      match callIn contracts mode step.workflow step (tagsSeen mode before) with
      | .error e => .error e
      | .ok call =>
        match callsIn contracts mode rest (before ++ [step]) with
        | .error e => .error e
        | .ok calls => .ok (call :: calls)
    else callsIn contracts mode rest (before ++ [step])

/-- The call of a step that sees some tags: its own, or that of the plan it holds. -/
def callIn (contracts : Contracts) (mode : RunMode) : Option PlanDocument → PlanStep → TagIndex →
    Except WorkflowError NamedCall
  | none, step, tags => (step.clipboardSeeing tags).map fun clipboard =>
    ⟨step.name, ⟨step.target, step.callData.getD [], clipboard⟩⟩
  | some inner, step, _ => (inner.outboundIn contracts mode (inner.workflow.getD step.name)).map fun call =>
    ⟨inner.workflow.getD step.name, call.prepared⟩

end

end PlanDocument

/-! ## The call of a build -/

namespace PlanLevel

variable {contracts : Contracts} {level : PlanLevel} {workflow : Workflow σ} {cells : Cells} {mode : RunMode}
  {nested : NestedCalls}

/-- The call of a nested workflow is that of the plan below, for each step that is sent. -/
def CallsBelow (contracts : Contracts) (mode : RunMode) (nested : NestedCalls) (level : PlanLevel) : Prop :=
  ∀ (place : Nat) (step : PlanStep) (inner : PlanDocument), level.plan.steps[place]? = some step →
    step.isSent mode = true → step.workflow = some inner →
    nested (place :: level.cell) =
      (inner.outboundIn contracts mode (inner.workflow.getD step.name)).map OutboundCall.prepared

/-- What a sent step makes is called as the step is in the plan. -/
theorem Makes.callIn_eq (below : level.CallsBelow contracts mode nested) {before rest : List PlanStep}
    {step : PlanStep} (isPlan : level.plan.steps = before ++ step :: rest) (isSent : step.isSent mode = true)
    {built : BuiltStep} (makes : level.Makes mode (step, before.length) built) :
    PlanDocument.callIn contracts mode step.workflow step (PlanDocument.tagsSeen mode before) =
      (built.call nested).map fun call => ⟨built.name, call⟩ := by
  cases makes with
  | @call callData _ clipboard data flat _ resolved =>
    have resolved : step.clipboardSeeing (PlanDocument.tagsSeen mode before) = .ok clipboard := by
      rwa [isPlan, List.take_left] at resolved
    simp only at data flat
    rw [flat, PlanDocument.callIn, resolved, data]
    rfl
  | @plan inner amountOut _ holds =>
    have isStep : level.plan.steps[before.length]? = some step := by simp [isPlan]
    have call := below _ _ _ isStep isSent holds
    simp only at holds
    rw [holds, PlanDocument.callIn, BuiltStep.call, BuiltStep.name, call]
    cases inner.outboundIn contracts mode (inner.workflow.getD step.name) <;> rfl

/-- The calls of what the sent steps make are those of the plan. -/
theorem namedCalls_eq_callsIn (below : level.CallsBelow contracts mode nested) {before rest : List PlanStep}
    (isPlan : level.plan.steps = before ++ rest) {built : List BuiltStep}
    (makes : List.Forall₂ (level.Makes mode) ((rest.zipIdx before.length).filter (·.1.isSent mode)) built) :
    namedCalls nested built = PlanDocument.callsIn contracts mode rest before := by
  induction rest generalizing before built with
  | nil =>
    cases makes
    rw [namedCalls, PlanDocument.callsIn]
  | cons step rest ih =>
    have behind : level.plan.steps = (before ++ [step]) ++ rest := by rw [isPlan, List.append_assoc]; rfl
    have ih {built : List BuiltStep}
        (makes : List.Forall₂ (level.Makes mode) ((rest.zipIdx (before.length + 1)).filter (·.1.isSent mode)) built) :=
      ih behind (by simpa using makes)
    rw [List.zipIdx_cons, List.filter_cons] at makes
    rw [PlanDocument.callsIn]
    by_cases isSent : step.isSent mode = true
    · rw [if_pos isSent] at makes
      obtain ⟨first, others, made, later, rfl⟩ := List.forall₂_cons_left_iff.mp makes
      rw [if_pos isSent, made.callIn_eq below isPlan isSent, namedCalls, ih later]
      cases first.call nested <;> rfl
    · rw [if_neg isSent] at makes
      rw [if_neg isSent, ih makes]

/-- The calls of a build that keeps a level are those of the plan. -/
theorem Kept.calls_eq {build : Build} (kept : level.Kept mode build) (below : level.CallsBelow contracts mode nested)
    (name : String) :
    build.calls name nested =
      if (level.plan.steps.filter (·.isSent mode)).isEmpty then .error (.emptySequence name)
      else PlanDocument.callsIn contracts mode level.plan.steps [] := by
  have isEmpty : build.emitted.isEmpty = (level.plan.steps.filter (·.isSent mode)).isEmpty := by
    rw [Bool.eq_iff_iff, List.isEmpty_iff_length_eq_zero, List.isEmpty_iff_length_eq_zero, kept.length,
      ← PlanDocument.map_sent, List.length_map]
  have calls : namedCalls nested build.emittedSteps = PlanDocument.callsIn contracts mode level.plan.steps [] :=
    namedCalls_eq_callsIn below rfl kept.emittedSteps
  rw [Build.calls, isEmpty, calls]

/-- The call of a nested workflow is the outbound call of the plan below, if that is what is finalized there. -/
theorem callsBelow_of_finalize (accepted : level.workflow contracts = .ok workflow)
    (stands : level.Stands mode cells)
    (finalized : ∀ (place : Nat) (step : PlanStep) (inner : PlanDocument), level.plan.steps[place]? = some step →
      step.workflow = some inner → ∀ {below : Workflow σ},
      (level.inside place step inner).workflow contracts = .ok below →
      (level.inside place step inner).Stands mode cells →
      below.finalize cells = inner.outboundIn contracts mode (inner.workflow.getD step.name)) :
    level.CallsBelow contracts mode (workflow.nestedCalls cells) := by
  intro place step inner isStep isSent holds
  obtain ⟨below, accepted', nested⟩ := nestedCalls_inside cells accepted isStep holds
  have inside := stands.inside isStep (PlanStepOf.takesPart_of_isSent isSent) holds
  rw [nested, Workflow.prepare, finalized place step inner isStep holds accepted' inside]

/-- Where a level stands, what is finalized is the outbound call of the plan. -/
theorem finalize_eq_outboundIn (accepted : level.workflow contracts = .ok workflow)
    (stands : level.Stands mode cells) :
    workflow.finalize cells = level.plan.outboundIn contracts mode level.name := by
  induction level using PlanLevel.induction generalizing workflow with
  | level level ih =>
    obtain ⟨build, isBuild, kept⟩ := stands _ .self
    have described := describes accepted
    have calls := kept.calls_eq (callsBelow_of_finalize accepted stands ih) level.name
    have value := kept.value
    rw [Workflow.finalize, outboundOf, described.cell, isBuild, requireBuild, described.name, described.encoder]
    obtain ⟨⟨_, kind, steps⟩, cell, name⟩ := level
    rw [PlanDocument.valueIn] at value
    simp only [PlanDocument.steps] at calls
    simp only [Build.outbound, calls, value, PlanDocument.outboundIn]
    by_cases isEmpty : (steps.filter (·.isSent mode)).isEmpty = true
    · simp only [isEmpty, ↓reduceIte]
    · simp only [isEmpty, Bool.false_eq_true, ↓reduceIte]
      cases PlanDocument.callsIn contracts mode steps [] <;> rfl

/-- Where a level stands, what is prepared are the calls of the plan. -/
theorem preparedCalls_eq_callsIn (accepted : level.workflow contracts = .ok workflow)
    (stands : level.Stands mode cells) :
    workflow.preparedCalls cells =
      if (level.plan.steps.filter (·.isSent mode)).isEmpty then .error (.emptySequence level.name)
      else PlanDocument.callsIn contracts mode level.plan.steps [] := by
  obtain ⟨build, isBuild, kept⟩ := stands _ .self
  have described := describes accepted
  have below := callsBelow_of_finalize accepted stands fun _ _ _ _ _ _ accepted' inside =>
    finalize_eq_outboundIn accepted' inside
  simp only [Workflow.preparedCalls, Workflow.current, described.cell, isBuild, requireBuild, described.name,
    kept.calls_eq below]

end PlanLevel

end CallWeave
