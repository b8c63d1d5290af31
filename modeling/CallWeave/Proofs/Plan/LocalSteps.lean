import CallWeave.Proofs.Plan.References
import CallWeave.Proofs.Plan.Retagging

/-!
# Local steps

A local step is built like any other, and then no call is sent for it. It takes no position among the calls, its tag
is not registered, and a raw call does not look at the running amount that it leaves. So the outer level of a plan sends
the same calls without its local steps (`PlanDocument.callsIn_filter`), and what is finalized is the same when they
add nothing to the value (`PlanLevel.build_withoutLocal`).
-/

namespace CallWeave

variable {σ : Type}

/-- What stands at a place among the kept ones stood at some place of the list, behind those kept that it still stands
behind. -/
theorem exists_place_of_getElem?_filter {α : Type} {p : α → Bool} {list : List α} {position : Nat} {a : α}
    (isThere : (list.filter p)[position]? = some a) :
    ∃ place : Nat, list[place]? = some a ∧ (list.take place).filter p = (list.filter p).take position := by
  have kept : list.filter p = (list.zipIdx.filter fun placed => p placed.1).map Prod.fst := by
    conv => lhs; rw [← List.zipIdx_map_fst 0 list, List.filter_map]
    rfl
  rw [kept, List.getElem?_map, Option.map_eq_some_iff] at isThere
  obtain ⟨⟨_, place⟩, found, rfl⟩ := isThere
  have isPlaced := List.mem_of_mem_filter (List.mem_of_getElem? found)
  obtain ⟨-, before⟩ := filter_take_of_getElem?_filter_zipIdx found
  exact ⟨place, List.mem_zipIdx_iff_getElem?.mp isPlaced, by rw [kept, ← List.map_take, ← before, Nat.sub_zero]⟩

namespace PlanDocument

/-- The plan without the local steps of its outer level. -/
def withoutLocal (plan : PlanDocument) : PlanDocument :=
  .mk plan.workflow plan.kind (plan.steps.filter fun step => !step.onlyLocal)

/-- What the local steps of the outer level add to the value in a mode. -/
def localValue (mode : RunMode) (plan : PlanDocument) : Uint256 :=
  valuesIn mode (plan.steps.filter (·.onlyLocal))

@[simp] theorem steps_withoutLocal (plan : PlanDocument) :
    plan.withoutLocal.steps = plan.steps.filter fun step => !step.onlyLocal := rfl

variable {contracts : Contracts} {mode : RunMode} {plan : PlanDocument}

/-- A local step is not sent. -/
theorem filter_isSent_filter (mode : RunMode) (steps : List PlanStep) :
    (steps.filter fun step => !step.onlyLocal).filter (·.isSent mode) = steps.filter (·.isSent mode) := by
  rw [List.filter_filter]
  refine List.filter_congr fun step _ => ?_
  simp [PlanStepOf.isSent]

/-- A local step registers no tag. -/
theorem tagsIn_filter (mode : RunMode) (steps : List PlanStep) :
    tagsIn mode (steps.filter fun step => !step.onlyLocal) = tagsIn mode steps := by
  rw [tagsIn, filter_isSent_filter, tagsIn]

theorem tagsSeen_filter (mode : RunMode) (steps : List PlanStep) :
    tagsSeen mode (steps.filter fun step => !step.onlyLocal) = tagsSeen mode steps := by
  rw [tagsSeen, tagsIn_filter, tagsSeen]

/-- The value is that of the local steps and that of the others. -/
theorem valuesIn_filter (mode : RunMode) (steps : List PlanStep) :
    valuesIn mode steps =
      valuesIn mode (steps.filter fun step => !step.onlyLocal) + valuesIn mode (steps.filter (·.onlyLocal)) := by
  induction steps with
  | nil =>
    rw [List.filter_nil, List.filter_nil, valuesIn]
    rfl
  | cons step rest ih =>
    rw [valuesIn, ih]
    cases isLocal : step.onlyLocal <;>
      simp only [List.filter_cons, isLocal, Bool.not_true, Bool.not_false, Bool.false_eq_true, ↓reduceIte, valuesIn]
    all_goals ac_rfl

/-- The calls are those of the steps that are not local. -/
theorem callsIn_filter (rest before : List PlanStep) :
    callsIn contracts mode (rest.filter fun step => !step.onlyLocal) (before.filter fun step => !step.onlyLocal) =
      callsIn contracts mode rest before := by
  induction rest generalizing before with
  | nil => rw [List.filter_nil, callsIn, callsIn]
  | cons step rest ih =>
    have behind := ih (before ++ [step])
    rw [List.filter_append] at behind
    rw [callsIn, ← behind]
    cases isLocal : step.onlyLocal with
    | true =>
      have notSent : step.isSent mode = false := by simp [PlanStepOf.isSent, isLocal]
      simp [isLocal, notSent]
    | false => simp [isLocal, callsIn, tagsSeen_filter]

/-- Whether a call is sent at all is no matter of the local steps. -/
theorem isEmpty_sent_withoutLocal (plan : PlanDocument) :
    (plan.withoutLocal.steps.filter (·.isSent mode)).isEmpty = (plan.steps.filter (·.isSent mode)).isEmpty := by
  rw [steps_withoutLocal, filter_isSent_filter]

/-- The outbound call is the same without local steps that add no value. -/
theorem outboundIn_withoutLocal (noValue : plan.localValue mode = 0) (name : String) :
    plan.withoutLocal.outboundIn contracts mode name = plan.outboundIn contracts mode name := by
  obtain ⟨workflow, kind, steps⟩ := plan
  have value : valuesIn mode (steps.filter fun step => !step.onlyLocal) = valuesIn mode steps := by
    rw [valuesIn_filter mode steps, show valuesIn mode (steps.filter (·.onlyLocal)) = 0 from noValue]
    exact (BitVec.add_zero _).symm
  have calls : callsIn contracts mode (steps.filter fun step => !step.onlyLocal) [] = callsIn contracts mode steps [] :=
    callsIn_filter steps []
  rw [withoutLocal, outboundIn, outboundIn]
  simp only [PlanDocument.steps, PlanDocument.kind, filter_isSent_filter, calls, value]

/-- A plan that can be built can be built without its local steps. -/
theorem Builds.withoutLocal (builds : plan.Builds mode) : plan.withoutLocal.Builds mode := by
  obtain ⟨apart, calls, plans⟩ := builds
  refine .intro ?_ ?_ ?_
  · rwa [steps_withoutLocal, tagsIn_filter]
  · intro place step isStep takesPart flat
    obtain ⟨before, isThere, same⟩ := exists_place_of_getElem?_filter isStep
    rw [steps_withoutLocal, ← same, tagsSeen_filter]
    exact calls before step isThere takesPart flat
  · exact fun step isIn => plans step (List.mem_of_mem_filter isIn)

end PlanDocument

namespace PlanLevel

variable {contracts : Contracts} {level : PlanLevel} {workflow : Workflow σ}

/-- Whether a plan is accepted does not depend on where it stands. -/
theorem exists_workflow_of_plan_eq (accepted : level.workflow contracts = .ok workflow) (other : PlanLevel)
    (same : other.plan = level.plan) :
    ∃ elsewhere : Workflow σ, other.workflow contracts = .ok elsewhere := by
  induction level using PlanLevel.induction generalizing other workflow with
  | level level ih =>
    rw [exists_workflow_iff, same]
    intro place step isStep
    obtain ⟨generator, becomes⟩ := exists_workflow_iff.mp ⟨workflow, accepted⟩ place step isStep
    cases becomes with
    | call data flat made => exact ⟨_, .call data flat made⟩
    | @plan inner below noData holds accepted =>
      obtain ⟨elsewhere, accepted'⟩ := ih place step inner isStep holds accepted (other.inside place step inner) rfl
      exact ⟨_, .plan noData holds accepted'⟩

/-- A plan that is accepted is accepted without its local steps. -/
theorem exists_withoutLocal {plan : PlanDocument} {cell : CellId}
    (accepted : plan.toWorkflow contracts cell = .ok workflow) :
    ∃ shorter : Workflow σ, plan.withoutLocal.toWorkflow contracts cell = .ok shorter := by
  have accepted : (root plan cell).workflow contracts = .ok workflow := accepted
  have becomes := exists_workflow_iff.mp ⟨workflow, accepted⟩
  show ∃ shorter : Workflow σ, (root plan.withoutLocal cell).workflow contracts = .ok shorter
  rw [exists_workflow_iff]
  intro place step isStep
  obtain ⟨before, isThere, -⟩ := exists_place_of_getElem?_filter isStep
  obtain ⟨generator, becomes⟩ := becomes before step isThere
  cases becomes with
  | call data flat made => exact ⟨_, .call data flat made⟩
  | @plan inner below noData holds accepted =>
    obtain ⟨elsewhere, accepted'⟩ :=
      exists_workflow_of_plan_eq accepted ((root plan.withoutLocal cell).inside place step inner) rfl
    exact ⟨_, .plan noData holds accepted'⟩

/-- The tags, the number of calls and the value that are seen after a build are those of the plan. -/
theorem seen_of_buildFor {purpose : Purpose} {amount : Uint256} {world after : World σ} {build : Build}
    (accepted : level.workflow contracts = .ok workflow)
    (built : workflow.buildFor purpose amount world = (.ok build, after)) :
    workflow.tags after.cells = PlanDocument.tagsIn purpose.mode level.plan.steps ∧
      workflow.length after.cells = (level.plan.steps.filter (·.isSent purpose.mode)).length ∧
      workflow.value after.cells = PlanDocument.valuesIn purpose.mode level.plan.steps := by
  obtain ⟨turns, ran⟩ := workflow.buildFor_ok built
  have kept := kept_of_ran accepted ran
  rw [Workflow.tags, Workflow.length, Workflow.value, ran.currentOrEmpty]
  refine ⟨kept.tags, ?_, ?_⟩
  · rw [kept.length, ← PlanDocument.map_sent, List.length_map]
  · rw [kept.value, PlanDocument.valueIn_eq]

/-- After a build that succeeds, its local steps can be deleted at the outer level: the rest is built as well, and it has
the same tags, as many calls and the same prepared calls, or the same error instead of them. The value is less by
what the local steps added, and when they added nothing, the same outbound call is finalized or the same error
answered. -/
theorem build_withoutLocal {plan : PlanDocument} {cell : CellId}
    (accepted : plan.toWorkflow contracts cell = .ok workflow) {amount : Uint256} {mode : RunMode} {data : RunData}
    {world after : World σ} {out : Uint256} (ok : workflow.build amount mode data world = (.ok out, after)) :
    ∃ shorter : Workflow σ, plan.withoutLocal.toWorkflow contracts cell = .ok shorter ∧
      ∀ world' : World σ, ∃ out' after', shorter.build amount mode data world' = (.ok out', after') ∧
        shorter.tags after'.cells = workflow.tags after.cells ∧
        shorter.length after'.cells = workflow.length after.cells ∧
        shorter.preparedCalls after'.cells = workflow.preparedCalls after.cells ∧
        workflow.value after.cells = shorter.value after'.cells + plan.localValue mode ∧
        (plan.localValue mode = 0 → shorter.finalize after'.cells = workflow.finalize after.cells) := by
  obtain ⟨shorter, accepted'⟩ := exists_withoutLocal accepted
  refine ⟨shorter, accepted', fun world' => ?_⟩
  have accepted : (root plan cell).workflow contracts = .ok workflow := accepted
  have accepted' : (root plan.withoutLocal cell).workflow contracts = .ok shorter := accepted'
  obtain ⟨build, -, built⟩ := Workflow.build_ok ok
  have builds : plan.withoutLocal.Builds mode := (builds_of_buildFor accepted built).withoutLocal
  obtain ⟨build', isOk⟩ := (buildFor_ok_iff accepted' ⟨mode, data⟩ amount world').mpr builds
  cases built' : shorter.buildFor ⟨mode, data⟩ amount world' with | mk outcome after' =>
  obtain rfl : outcome = .ok build' := by rw [← isOk, built']
  obtain ⟨tags, length, value⟩ := seen_of_buildFor accepted built
  obtain ⟨tags', length', value'⟩ := seen_of_buildFor accepted' built'
  have stands := stands_of_buildFor accepted built
  have stands' := stands_of_buildFor accepted' built'
  have calls : PlanDocument.callsIn contracts mode plan.withoutLocal.steps [] =
      PlanDocument.callsIn contracts mode plan.steps [] := PlanDocument.callsIn_filter plan.steps []
  refine ⟨build'.amountOut, after', by rw [Workflow.build_eq, built']; rfl, ?_, ?_, ?_, ?_, fun noValue => ?_⟩
  · rw [tags', tags]
    exact PlanDocument.tagsIn_filter mode plan.steps
  · rw [length', length]
    exact congrArg List.length (PlanDocument.filter_isSent_filter mode plan.steps)
  · rw [preparedCalls_eq_callsIn accepted' stands', preparedCalls_eq_callsIn accepted stands]
    simp only [root, PlanDocument.isEmpty_sent_withoutLocal, calls, PlanDocument.name]
    rfl
  · rw [value, value']
    exact PlanDocument.valuesIn_filter mode plan.steps
  · rw [finalize_eq_outboundIn accepted' stands', finalize_eq_outboundIn accepted stands]
    exact PlanDocument.outboundIn_withoutLocal noValue _

/-- A plan with two local steps: one sets the running amount under a tag that a later step refers to, the other holds a
plan. -/
def rehearsedPlan : PlanDocument :=
  let call (name : String) (tag : Option String) (clipboard : Option PlanClipboard) : PlanStep :=
    ⟨name, some [1], some ⟨7⟩, tag, false, false, false, none, none, clipboard, none⟩
  let paste (tag : String) : PlanClipboard := .fromTag tag (some 0) 1
  .mk (some "route") .advancedPipe
    [{ call "claim" (some "claim") none with onlyLocal := true, amountOut := some 500 },
      call "swap" (some "swap") none,
      { call "pipe" (some "pipe") none with
        callData := none, onlyLocal := true, workflow := some (.mk none .farm [call "wrap" none none]) },
      call "deposit" (some "deposit") (some (paste "claim")), call "send" none (some (paste "swap"))]

theorem rehearsedPlan_shortened :
    ∃ (workflow shorter : Workflow Unit) (after after' : World Unit) (call : OutboundCall),
      rehearsedPlan.toWorkflow default [] = .ok workflow ∧
      workflow.build 7 .forward .empty (.start ()) = (.ok 500, after) ∧ rehearsedPlan.localValue .forward = 0 ∧
      workflow.finalize after.cells = .ok call ∧ rehearsedPlan.withoutLocal.toWorkflow default [] = .ok shorter ∧
      shorter.build 7 .forward .empty (.start ()) = (.ok 7, after') ∧
      shorter.tags after'.cells = [("swap", 0), ("deposit", 1)] ∧ shorter.finalize after'.cells = .ok call := by
  obtain ⟨workflow, after, call, accepted, ok, tags, finalized⟩ :
      ∃ (workflow : Workflow Unit) (after : World Unit) (call : OutboundCall),
        rehearsedPlan.toWorkflow default [] = .ok workflow ∧
        workflow.build 7 .forward .empty (.start ()) = (.ok 500, after) ∧
        workflow.tags after.cells = [("swap", 0), ("deposit", 1)] ∧ workflow.finalize after.cells = .ok call :=
    ⟨_, _, _, rfl, rfl, rfl, rfl⟩
  have noValue : rehearsedPlan.localValue .forward = 0 := by decide
  obtain ⟨shorter, accepted', built⟩ := build_withoutLocal accepted ok
  obtain ⟨out', after', ok', tags', -, -, -, finalized'⟩ := built (.start ())
  obtain rfl : out' = 7 := by
    have same := accepted'.symm.trans (rfl : rehearsedPlan.withoutLocal.toWorkflow default [] = .ok (_ : Workflow Unit))
    obtain rfl := Except.ok.inj same
    exact (Except.ok.inj (congrArg Prod.fst ok')).symm
  exact ⟨workflow, shorter, after, after', call, accepted, ok, noValue, finalized, accepted', ok', tags'.trans tags,
    (finalized' noValue).trans finalized⟩

end PlanLevel

end CallWeave
