import CallWeave.Proofs.Plan.Matching
import CallWeave.Proofs.Sharing.Agreement
import CallWeave.Session.Transport
import CallWeave.Workflow.Submit

/-!
# What is simulated is what is submitted

A plan reads nothing of the outside world, so a build of it has one outcome in all worlds, and in all modes
that treat the plan alike (`PlanLevel.buildFor_agrees`). The three modes that need the full transaction do.
For a plan, the request that a simulation or an estimate of the cost sends is therefore the one of the call
that is executed (`PlanLevel.submits_what_is_simulated`).
-/

namespace CallWeave

variable {σ : Type}

/-! ## Requests -/

/-- A request asks for a call: at its target, with all its calldata and, exactly when there is any, with its
currency. -/
structure CallRequest.AsksFor (call : OutboundCall) (sender : Option Address) (request : CallRequest) : Prop where
  sender : request.sender = sender
  target : request.target = call.target
  input : request.input = call.selector ++ call.arguments
  value : ∀ amount, request.value = some amount ↔ amount = call.value ∧ amount ≠ 0

theorem OutboundCall.toRequest_asksFor (call : OutboundCall) (sender : Option Address) :
    (call.toRequest sender).AsksFor call sender := by
  refine ⟨rfl, rfl, rfl, fun amount => ?_⟩
  simp only [toRequest]
  split
  case isTrue none =>
    rw [none]
    simp
  case isFalse some =>
    rw [Option.some.injEq]
    constructor
    · rintro rfl
      exact ⟨rfl, some⟩
    · rintro ⟨rfl, -⟩
      rfl

/-- What is sent from some outside world for a call, when the answer is made into a result: one request, that
of the call, whose failure is the result. Without a call nothing is sent, and its error is the result. -/
inductive Sends {α β : Type} (send : CallRequest → σ → Except TransportError α × σ) (sender : Option Address)
    (outside : σ) : Except WorkflowError OutboundCall → Except WorkflowError β × World σ → Prop
  | nothing {e : WorkflowError} {after : World σ} (untouched : after.outside = outside) :
      Sends send sender outside (.error e) (.error e, after)
  | request {call : OutboundCall} {answer : Except TransportError α} {result : Except WorkflowError β}
      {after : World σ} (sent : send (call.toRequest sender) outside = (answer, after.outside))
      (refused : ∀ e, answer = .error e → result = .error (.transport e)) :
      Sends send sender outside (.ok call) (result, after)

/-- A call changes the outside world as its request does. -/
theorem Sends.outside_eq {α β : Type} {send : CallRequest → σ → Except TransportError α × σ}
    {sender : Option Address} {outside : σ} {call : OutboundCall} {answered : Except WorkflowError β × World σ}
    (sends : Sends send sender outside (.ok call) answered) :
    answered.2.outside = (send (call.toRequest sender) outside).2 := by
  cases sends with
  | request sent => rw [sent]

namespace Workflow

variable (workflow : Workflow σ) (amount : Uint256) (data : RunData) (transport : Transport σ)
  (sender : Option Address) (world : World σ)

/-- Asking sends the request and leaves all builds as they are. -/
theorem ask_eq {α : Type} (send : CallRequest → σ → Except TransportError α × σ) (request : CallRequest) :
    ask send request world =
      ((send request world.outside).1.mapError .transport, ⟨world.cells, (send request world.outside).2⟩) := by
  rw [ask]
  split
  case h_1 asked => rw [asked]; rfl
  case h_2 asked => rw [asked]; rfl

/-- The call that is built is finalized from the build, if there is one. -/
theorem outbound_eq (mode : RunMode) :
    workflow.outbound amount mode data world =
      match workflow.buildFor ⟨mode, data⟩ amount world with
      | (.error e, after) => (.error e, after)
      | (.ok _, after) => (workflow.finalize after.cells, after) := by
  rw [outbound, build]
  obtain ⟨outcome, after⟩ := workflow.buildFor ⟨mode, data⟩ amount world
  cases outcome <;> rfl

/-- Finalizing changes nothing in the world. -/
theorem outbound_snd (mode : RunMode) :
    (workflow.outbound amount mode data world).2 = (workflow.buildFor ⟨mode, data⟩ amount world).2 := by
  rw [outbound_eq]
  obtain ⟨outcome, after⟩ := workflow.buildFor ⟨mode, data⟩ amount world
  cases outcome <;> rfl

/-- A simulation sends the request of the call that is built for it, and leaves the builds as they are. -/
theorem callStatic_sends :
    Sends transport.call sender (workflow.outbound amount .readOnlyCall data world).2.outside
        (workflow.outbound amount .readOnlyCall data world).1
        (workflow.callStatic amount data transport sender world) ∧
      (workflow.callStatic amount data transport sender world).2.cells =
        (workflow.outbound amount .readOnlyCall data world).2.cells := by
  rw [callStatic]
  obtain ⟨called, built⟩ := workflow.outbound amount .readOnlyCall data world
  cases called with
  | error e => exact ⟨.nothing rfl, rfl⟩
  | ok call =>
    simp only [ask_eq]
    cases answer : (transport.call (call.toRequest sender) built.outside).1 with
    | error e => exact ⟨.request (Prod.ext answer rfl) fun _ same => by cases same; rfl, rfl⟩
    | ok returned => exact ⟨.request (Prod.ext answer rfl) nofun, rfl⟩

/-- So does an estimate of the cost. -/
theorem estimateCost_sends :
    Sends transport.estimateCost sender (workflow.outbound amount .estimateCost data world).2.outside
        (workflow.outbound amount .estimateCost data world).1
        (workflow.estimateCost amount data transport sender world) ∧
      (workflow.estimateCost amount data transport sender world).2.cells =
        (workflow.outbound amount .estimateCost data world).2.cells := by
  rw [estimateCost]
  obtain ⟨called, built⟩ := workflow.outbound amount .estimateCost data world
  cases called with
  | error e => exact ⟨.nothing rfl, rfl⟩
  | ok call =>
    simp only [ask_eq]
    refine ⟨.request rfl fun e same => ?_, trivial⟩
    rw [same]
    rfl

end Workflow

/-! ## Plans in modes that treat them alike -/

theorem RunMode.isReversed_of_isStatic {mode : RunMode} (isStatic : mode.isStatic = true) :
    mode.isReversed = false := by
  cases mode <;> first | rfl | cases isStatic

/-- The steps that need the full transaction take part in all modes that do. -/
theorem PlanDocument.sameIn_of_isStatic {one other : RunMode} (here : one.isStatic = true)
    (there : other.isStatic = true) (plan : PlanDocument) : plan.SameIn one other := by
  refine ⟨?_, fun inner _ step _ => ?_⟩
  · rw [RunMode.isReversed_of_isStatic here, RunMode.isReversed_of_isStatic there]
  · rw [PlanStepOf.takesPart, PlanStepOf.takesPart, here, there]

/-- Without such steps, a plan is treated alike by all modes that walk in one direction. -/
theorem PlanDocument.sameIn_of_onlyExecute {one other : RunMode} {plan : PlanDocument}
    (direction : one.isReversed = other.isReversed)
    (none : ∀ inner ∈ plan.levels, ∀ step ∈ inner.steps, step.onlyExecute = false) : plan.SameIn one other := by
  refine ⟨direction, fun inner isInner step isStep => ?_⟩
  rw [PlanStepOf.takesPart, PlanStepOf.takesPart, none inner isInner step isStep, Bool.false_and, Bool.false_and]

/-- Two contexts, of one mode and of another, show a step of a plan the same. -/
def RunContext.Shows (one other : RunMode) (context context' : RunContext) : Prop :=
  context.mode = one ∧ context'.mode = other ∧ context.tags = context'.tags

theorem PlanDocument.SameIn.purposes {one other : Purpose} {plan : PlanDocument}
    (same : plan.SameIn one.mode other.mode) : one.Alike (RunContext.Shows one.mode other.mode) other :=
  ⟨same.direction, fun _ _ => ⟨rfl, rfl, rfl⟩, fun _ _ => ⟨rfl, rfl, rfl⟩⟩

namespace PlanLevel

variable {contracts : Contracts} {level : PlanLevel} {workflow : Workflow σ}

/-- The entries of a plan agree in modes that treat the plan alike. -/
theorem entries_agree (accepted : level.workflow contracts = .ok workflow) {one other : Purpose}
    (same : level.plan.SameIn one.mode other.mode) :
    ∀ entry ∈ workflow.entries, entry.Agrees (RunContext.Shows one.mode other.mode) one other := by
  induction level using PlanLevel.induction generalizing workflow with
  | level level ih =>
    intro entry isEntry
    obtain ⟨place, step, -, isStep, options, becomes⟩ := (describes accepted).exists_step isEntry
    have isIn : step ∈ level.plan.steps := List.mem_of_getElem? isStep
    constructor
    · rintro amount context context' ⟨mode, mode', -⟩
      rw [show _ = step.options from options, PlanStepOf.leavesOut_options, PlanStepOf.leavesOut_options, mode, mode',
        same.takesPart_eq isIn]
    · generalize entry.generator = generator at becomes
      cases becomes with
      | call _ _ made =>
        rintro amount context context' world world' ⟨-, -, tags⟩
        rw [PlanStepOf.run_rawCall made, PlanStepOf.run_rawCall made, tags]
      | @plan inner below _ holds accepted =>
        have below' := ih place step inner isStep holds accepted (same.inside isIn holds)
        exact below.agrees_asGenerator same.purposes below'

/-- A build of a plan has one outcome for all run data, in all modes that treat the plan alike and in all
worlds. -/
theorem buildFor_agrees (accepted : level.workflow contracts = .ok workflow) {one other : Purpose}
    (same : level.plan.SameIn one.mode other.mode) (amount : Uint256) (world world' : World σ) :
    (workflow.buildFor one amount world).1 = (workflow.buildFor other amount world').1 :=
  workflow.buildFor_agrees same.purposes (entries_agree accepted same) amount world world'

/-- A build of a plan leaves the outside world alone. -/
theorem buildFor_outside (accepted : level.workflow contracts = .ok workflow) (purpose : Purpose)
    (amount : Uint256) (world : World σ) :
    (workflow.buildFor purpose amount world).2.outside = world.outside := by
  induction level using PlanLevel.induction generalizing workflow amount world with
  | level level ih =>
    let related (before after : World σ) : Prop := after.outside = before.outside
    have runs : ∀ entry ∈ workflow.entries, ∀ amount context world,
        related world (entry.generator.run purpose amount context world).2 := by
      intro entry isEntry amount context world
      obtain ⟨place, step, -, isStep, -, becomes⟩ := (describes accepted).exists_step isEntry
      generalize entry.generator = generator at becomes
      cases becomes with
      | call _ _ made => rw [PlanStepOf.run_rawCall made]
      | @plan inner below _ holds accepted =>
        rw [below.run_asGenerator_snd]
        exact ih place step inner isStep holds accepted amount world
    have refl : ∀ world, related world world := fun _ => rfl
    exact workflow.buildFor_related refl (fun first second => Eq.trans second first) (fun _ => rfl) (fun _ _ => rfl) runs
      amount world

/-! ## Submitting plans -/

/-- The call of a plan is one in all worlds and in all modes that treat the plan alike, and so is the error if
there is no call. -/
theorem outbound_agrees (accepted : level.workflow contracts = .ok workflow) {one other : RunMode}
    (same : level.plan.SameIn one other) (amount : Uint256) (data data' : RunData) (world world' : World σ) :
    (workflow.outbound amount one data world).1 = (workflow.outbound amount other data' world').1 := by
  have agrees : (workflow.buildFor ⟨one, data⟩ amount world).1 = (workflow.buildFor ⟨other, data'⟩ amount world').1 :=
    buildFor_agrees accepted same amount world world'
  rw [workflow.outbound_eq, workflow.outbound_eq]
  cases here : workflow.buildFor ⟨one, data⟩ amount world with | mk outcome after =>
  cases there : workflow.buildFor ⟨other, data'⟩ amount world' with | mk outcome' after' =>
  rw [here, there] at agrees
  obtain rfl : outcome = outcome' := agrees
  cases outcome with
  | error e => rfl
  | ok build =>
    have stands := stands_of_buildFor accepted here
    have stands' := stands_of_buildFor accepted there
    simp only [finalize_eq_outboundIn accepted stands, finalize_eq_outboundIn accepted stands',
      same.matches.outboundIn_eq contracts level.name]

/-- The build that is there afterwards is one as well. -/
theorem currentOrEmpty_agrees (accepted : level.workflow contracts = .ok workflow) {one other : RunMode}
    (same : level.plan.SameIn one other) (amount : Uint256) (data data' : RunData) (world world' : World σ) :
    workflow.currentOrEmpty (workflow.outbound amount one data world).2.cells =
      workflow.currentOrEmpty (workflow.outbound amount other data' world').2.cells := by
  have coherent := coherent_of_accepted accepted
  have agrees : (workflow.buildFor ⟨one, data⟩ amount world).1 = (workflow.buildFor ⟨other, data'⟩ amount world').1 :=
    buildFor_agrees accepted same amount world world'
  rw [workflow.outbound_snd, workflow.outbound_snd, Workflow.currentOrEmpty, Workflow.currentOrEmpty,
    Workflow.cell_buildFor coherent, Workflow.cell_buildFor coherent, agrees]

/-- Whatever the amount, the run data, the sender and the worlds are, the simulation and the estimate of the cost
of an accepted plan send the request of the call that is executed, and nothing if there is none; then all three
have one error. They leave the same tags and the same steps. Where no step needs the full transaction, a forward
build gives that call too. -/
theorem submits_what_is_simulated {plan : PlanDocument} {cell : CellId}
    (accepted : plan.toWorkflow contracts cell = .ok workflow) (amount : Uint256) (data : RunData)
    (transport : Transport σ) (sender : Option Address) (first second third : World σ) :
    let executed := workflow.execute amount data first
    let simulated := workflow.callStatic amount data transport sender second
    let costed := workflow.estimateCost amount data transport sender third
    executed.2.outside = first.outside ∧
      Sends transport.call sender second.outside executed.1 simulated ∧
      Sends transport.estimateCost sender third.outside executed.1 costed ∧
      (∀ call, executed.1 = .ok call → (call.toRequest sender).AsksFor call sender) ∧
      (workflow.tags simulated.2.cells = workflow.tags executed.2.cells ∧
        workflow.tags costed.2.cells = workflow.tags executed.2.cells) ∧
      (workflow.summary simulated.2.cells = workflow.summary executed.2.cells ∧
        workflow.summary costed.2.cells = workflow.summary executed.2.cells) ∧
      ((∀ inner ∈ plan.levels, ∀ step ∈ inner.steps, step.onlyExecute = false) →
        ∀ data' fourth, (workflow.outbound amount .forward data' fourth).1 = executed.1) := by
  have accepted : (root plan cell).workflow contracts = .ok workflow := accepted
  have outside (mode : RunMode) (world : World σ) :
      (workflow.outbound amount mode data world).2.outside = world.outside := by
    rw [workflow.outbound_snd, buildFor_outside accepted]
  -- the two other modes that need the full transaction build the call that is executed
  have call {mode : RunMode} (isStatic : mode.isStatic = true) (world : World σ) :
      (workflow.outbound amount mode data world).1 = (workflow.execute amount data first).1 :=
    outbound_agrees accepted (plan.sameIn_of_isStatic isStatic rfl) amount data data world first
  have left {mode : RunMode} (isStatic : mode.isStatic = true) (world : World σ) :
      workflow.currentOrEmpty (workflow.outbound amount mode data world).2.cells =
        workflow.currentOrEmpty (workflow.execute amount data first).2.cells :=
    currentOrEmpty_agrees accepted (plan.sameIn_of_isStatic isStatic rfl) amount data data world first
  obtain ⟨called, cells⟩ := workflow.callStatic_sends amount data transport sender second
  obtain ⟨asked, cells'⟩ := workflow.estimateCost_sends amount data transport sender third
  have simulated := left (show RunMode.readOnlyCall.isStatic = true from rfl) second
  have costed := left (show RunMode.estimateCost.isStatic = true from rfl) third
  rw [outside, call rfl] at called asked
  rw [← cells] at simulated
  rw [← cells'] at costed
  refine ⟨outside .execute first, called, asked, fun call _ => call.toRequest_asksFor sender, ?_, ?_, ?_⟩
  · simp only [Workflow.tags, simulated, costed, and_self]
  · simp only [Workflow.summary, simulated, costed, and_self]
  · intro none data' fourth
    have same : plan.SameIn .forward .execute := PlanDocument.sameIn_of_onlyExecute rfl none
    exact outbound_agrees accepted same amount data' data fourth first

/-- One transport is asked by both, in worlds of their own, and logs the request of the call that is executed. -/
theorem layeredPlan_submitted :
    ∃ (workflow : Workflow Stage) (call : OutboundCall),
      layeredPlan.toWorkflow default [] = .ok workflow ∧
      (workflow.execute 7 .empty (.start Stage.empty)).1 = .ok call ∧
      (call.toRequest none).value = some 7 ∧
      ((workflow.callStatic 7 .empty (Stage.transport "node") none (.start Stage.empty)).2.outside "node").log =
        [.call (call.toRequest none)] ∧
      ((workflow.estimateCost 7 .empty (Stage.transport "node") none (.start Stage.empty)).2.outside "node").log =
        [.estimateCost (call.toRequest none)] ∧
      (workflow.outbound 7 .forward .empty (.start Stage.empty)).1 = .ok call := by
  obtain ⟨workflow, accepted, seen⟩ :
      ∃ workflow : Workflow Stage, layeredPlan.toWorkflow default [] = .ok workflow ∧
        (workflow.execute 7 .empty (.start Stage.empty)).1.toOption.any (fun call => decide (call.value = 7)) = true :=
    ⟨_, rfl, by decide +kernel⟩
  cases executed : (workflow.execute 7 .empty (.start Stage.empty)).1 with
  | error e =>
    rw [executed] at seen
    cases seen
  | ok call =>
    rw [executed] at seen
    have value : call.value = 7 := of_decide_eq_true seen
    obtain ⟨-, simulated, costed, asks, -, -, forward⟩ := submits_what_is_simulated accepted 7 .empty
      (Stage.transport "node") none (.start Stage.empty) (.start Stage.empty) (.start Stage.empty)
    have none : ∀ inner ∈ layeredPlan.levels, ∀ step ∈ inner.steps, step.onlyExecute = false := by
      simp [layeredPlan, PlanDocument.levels, PlanDocument.levelsIn, PlanDocument.levelsOf, PlanDocument.steps]
    refine ⟨workflow, call, accepted, executed, ?_, ?_, ?_, (forward none .empty _).trans executed⟩
    · exact ((asks call executed).value 7).mpr ⟨value.symm, by decide⟩
    · rw [executed] at simulated
      rw [simulated.outside_eq]
      rfl
    · rw [executed] at costed
      rw [costed.outside_eq]
      rfl

end PlanLevel

end CallWeave
