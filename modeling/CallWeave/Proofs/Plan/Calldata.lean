import CallWeave.Proofs.Codec.Arguments
import CallWeave.Proofs.Plan.Turns

/-!
# The calldata of a plan

The calldata of a plan is a tree of bytes: the selector of the entry point and its arguments, and among the
arguments, as the payload of the step that it belongs to, the calldata of each nested plan.
`PlanDocument.CarriedBy` says what a plan is in such bytes, by reading the arguments and going on in the
payloads. Whatever is finalized after a build of the plan carries the plan
(`PlanLevel.finalize_carries_plan`).
-/

namespace CallWeave

variable {σ : Type}

/-- The contract that an entry point belongs to. -/
def Contracts.entry (contracts : Contracts) : EncoderKind → Address
  | .farm | .advancedFarm => contracts.beanstalk
  | .advancedPipe => contracts.depot

/-- Calldata carries a plan in a mode: behind the selector, its arguments read as one call for each sent step,
in the order of the plan, and as the value of the plan where the entry point takes one. The call of a raw step
has the step's own fields, as far as the entry point has a place for them. That of a nested plan enters its
contract without a clipboard, and its payload carries it in turn. -/
inductive PlanDocument.CarriedBy (contracts : Contracts) (mode : RunMode) : PlanDocument → Bytes → Prop
  | intro {plan : PlanDocument} {arguments : Bytes} {calls : List PreparedCall}
      (reads : plan.kind.readArguments arguments = .ok (calls, plan.kind.carriedValue (plan.valueIn mode)))
      (each : calls.length = (plan.sent mode).length)
      (raw : ∀ (position : Nat) (step : PlanStep) (place : Nat) (call : PreparedCall),
        (plan.sent mode)[position]? = some (step, place) → calls[position]? = some call →
        step.workflow = none →
        ∃ callData clipboard, step.callData = some callData ∧
          step.clipboardSeeing (PlanDocument.tagsSeen mode (plan.steps.take place)) = .ok clipboard ∧
          call = plan.kind.carried ⟨step.target, callData, clipboard⟩)
      (nested : ∀ (position : Nat) (step : PlanStep) (place : Nat) (call : PreparedCall) (inner : PlanDocument),
        (plan.sent mode)[position]? = some (step, place) → calls[position]? = some call →
        step.workflow = some inner → call = plan.kind.carried ⟨some (contracts.entry inner.kind), call.payload, none⟩)
      (inside : ∀ (position : Nat) (step : PlanStep) (place : Nat) (call : PreparedCall) (inner : PlanDocument),
        (plan.sent mode)[position]? = some (step, place) → calls[position]? = some call →
        step.workflow = some inner → CarriedBy contracts mode inner call.payload) :
      CarriedBy contracts mode plan (plan.kind.selector ++ arguments)

namespace PlanLevel

variable {contracts : Contracts} {level : PlanLevel} {workflow : Workflow σ} {cells : Cells} {mode : RunMode}

/-- The call of a workflow enters the contract of its entry point, with its selector. -/
theorem finalize_enters (accepted : level.workflow contracts = .ok workflow) {call : OutboundCall}
    (finalized : workflow.finalize cells = .ok call) :
    call.target = contracts.entry level.plan.kind ∧ call.selector = level.plan.kind.selector := by
  obtain ⟨target, selector⟩ := Workflow.finalize_entry finalized
  rw [target, selector, (describes accepted).encoder]
  cases level.plan.kind <;> exact ⟨rfl, rfl⟩

/-- In a plan, what is read of the step of a nested plan is the call of the level below. -/
theorem nestedCalls_inside (cells : Cells) (accepted : level.workflow contracts = .ok workflow) {place : Nat}
    {step : PlanStep} {inner : PlanDocument} (isStep : level.plan.steps[place]? = some step)
    (holds : step.workflow = some inner) :
    ∃ below : Workflow σ, (level.inside place step inner).workflow contracts = .ok below ∧
      workflow.nestedCalls cells (place :: level.cell) = below.prepare cells := by
  obtain ⟨entry, below, isEntry, isBelow, cell, accepted'⟩ := exists_entry_inside accepted isStep holds
  have prepare := Workflow.nestedCalls_eq_prepare (coherent_of_accepted accepted) isEntry isBelow cells
  rw [cell] at prepare
  exact ⟨below, accepted', prepare⟩

/-- The call of a raw step has the fields of the step. -/
theorem Makes.call_of_flat {placed : PlanStep × Nat} {built : BuiltStep} (makes : level.Makes mode placed built)
    (flat : placed.1.workflow = none) {nested : NestedCalls} {call : PreparedCall}
    (called : built.call nested = .ok call) :
    ∃ callData clipboard, placed.1.callData = some callData ∧
      placed.1.clipboardSeeing (PlanDocument.tagsSeen mode (level.plan.steps.take placed.2)) = .ok clipboard ∧
      call = ⟨placed.1.target, callData, clipboard⟩ := by
  cases makes with
  | plan _ holds => simp [flat] at holds
  | @call callData _ clipboard data _ _ resolved =>
    have same : call = ⟨placed.1.target, callData, clipboard⟩ := by simpa [BuiltStep.call] using called.symm
    exact ⟨callData, clipboard, data, resolved, same⟩

/-- The call of a nested plan is what the level below finalizes. -/
theorem Makes.finalized_inside (accepted : level.workflow contracts = .ok workflow) {step : PlanStep} {place : Nat}
    {built : BuiltStep} (makes : level.Makes mode (step, place) built) {inner : PlanDocument}
    (isStep : level.plan.steps[place]? = some step) (holds : step.workflow = some inner) {call : PreparedCall}
    (called : built.call (workflow.nestedCalls cells) = .ok call) :
    ∃ (below : Workflow σ) (inside : OutboundCall), (level.inside place step inner).workflow contracts = .ok below ∧
      below.finalize cells = .ok inside ∧ inside.prepared = call := by
  cases makes with
  | call _ flat => simp [holds] at flat
  | @plan inner' _ _ holds' =>
    obtain rfl := Option.some.inj (holds'.symm.trans holds)
    obtain ⟨below, accepted', nested⟩ := nestedCalls_inside cells accepted isStep holds
    simp only [BuiltStep.call] at called
    rw [nested, Workflow.prepare] at called
    cases finalized : below.finalize cells with
    | error e => simp [finalized, Except.map] at called
    | ok inside => exact ⟨below, inside, accepted', finalized, by simpa [finalized, Except.map] using called⟩

/-- Where a level stands, the call that is finalized carries the plan. -/
theorem carriedBy_of_stands (accepted : level.workflow contracts = .ok workflow) (stands : level.Stands mode cells)
    {call : OutboundCall} (finalized : workflow.finalize cells = .ok call) (held : call.calldata.length < 2 ^ 64) :
    level.plan.CarriedBy contracts mode call.calldata := by
  induction level using PlanLevel.induction generalizing workflow call with
  | level level ih =>
    obtain ⟨build, isBuild, kept⟩ := stands _ .self
    have described := describes accepted
    obtain ⟨prepared, called, encoded, -⟩ := Workflow.finalize_ok finalized
    obtain ⟨build', isBuild', calls⟩ := Workflow.preparedCalls_ok called
    rw [described.cell] at isBuild'
    obtain rfl := Option.some.inj (isBuild.symm.trans isBuild')
    have value : workflow.value cells = level.plan.valueIn mode := by
      rw [Workflow.value, Workflow.currentOrEmpty, described.cell, isBuild, Option.getD_some, kept.value]
    have kind : workflow.encoder.kind = level.plan.kind := by
      rw [described.encoder]
      cases level.plan.kind <;> rfl
    have heldArguments : call.arguments.length < 2 ^ 64 := by
      rw [OutboundCall.calldata, List.length_append] at held
      omega
    have reads := Encoder.readArguments_encodeArguments encoded heldArguments
    have payloads := Encoder.payload_lt_of_encodeArguments encoded heldArguments
    rw [kind, value] at reads
    rw [OutboundCall.calldata, (finalize_enters accepted finalized).2]
    -- the call read at a position is that of the step sent there
    have atPosition {position place : Nat} {step : PlanStep} {call : PreparedCall}
        (isSent : (level.plan.sent mode)[position]? = some (step, place))
        (isThere : (prepared.map fun named => level.plan.kind.carried named.call)[position]? = some call) :
        ∃ named built, named ∈ prepared ∧ call = level.plan.kind.carried named.call ∧
          level.Makes mode (step, place) built ∧
          built.call (workflow.nestedCalls cells) = .ok named.call := by
      obtain ⟨named, built, found, makes, -, prepares⟩ := kept.exists_of_sent calls isSent
      rw [List.getElem?_map, found, Option.map_some] at isThere
      exact ⟨named, built, List.mem_of_getElem? found, (Option.some.inj isThere).symm, makes, prepares⟩
    -- a nested plan is sent as the call of the level below
    have below {position place : Nat} {step : PlanStep} {call : PreparedCall} {inner : PlanDocument}
        (isSent : (level.plan.sent mode)[position]? = some (step, place))
        (isThere : (prepared.map fun named => level.plan.kind.carried named.call)[position]? = some call)
        (holds : step.workflow = some inner) :
        ∃ inside : OutboundCall, call = level.plan.kind.carried inside.prepared ∧
          inside.target = contracts.entry inner.kind ∧ inner.CarriedBy contracts mode inside.calldata := by
      obtain ⟨named, built, isNamed, rfl, makes, prepares⟩ := atPosition isSent isThere
      obtain ⟨isStep, sent⟩ := PlanDocument.mem_sent.mp (List.mem_of_getElem? isSent)
      obtain ⟨below, inside, accepted', finalized', same⟩ := makes.finalized_inside accepted isStep holds prepares
      have heldInside : inside.calldata.length < 2 ^ 64 := by
        have := payloads named isNamed
        rwa [← same] at this
      have carries := ih place step inner isStep holds accepted'
        (stands.inside isStep (PlanStepOf.takesPart_of_isSent sent) holds) finalized' heldInside
      exact ⟨inside, by rw [same], (finalize_enters accepted' finalized').1, carries⟩
    refine .intro reads ?_ ?_ ?_ ?_
    · rw [List.length_map, ← calls.length_eq, ← kept.emittedSteps.length_eq]
    · intro position step place call isSent isThere flat
      obtain ⟨named, built, -, rfl, makes, prepares⟩ := atPosition isSent isThere
      obtain ⟨callData, clipboard, data, resolved, same⟩ := makes.call_of_flat flat prepares
      exact ⟨callData, clipboard, data, resolved, by rw [same]⟩
    · intro position step place call inner isSent isThere holds
      obtain ⟨inside, rfl, target, -⟩ := below isSent isThere holds
      rw [EncoderKind.payload_carried, OutboundCall.prepared, target]
    · intro position step place call inner isSent isThere holds
      obtain ⟨inside, rfl, -, carries⟩ := below isSent isThere holds
      rwa [EncoderKind.payload_carried]

/-- What is finalized after a build of a plan, in any mode, enters the contract of the plan's entry point, with
the value of the plan, and carries all of the plan that the mode sends. -/
theorem finalize_carries_plan {plan : PlanDocument} {cell : CellId}
    (accepted : plan.toWorkflow contracts cell = .ok workflow) {amount : Uint256} {data : RunData}
    {world after : World σ} {out : Uint256} (ok : workflow.build amount mode data world = (.ok out, after))
    {call : OutboundCall} (finalized : workflow.finalize after.cells = .ok call)
    (held : call.calldata.length < 2 ^ 64) :
    call.target = contracts.entry plan.kind ∧ call.value = plan.valueIn mode ∧
      plan.CarriedBy contracts mode call.calldata := by
  have accepted : (root plan cell).workflow contracts = .ok workflow := accepted
  obtain ⟨built, -, ok⟩ := Workflow.build_ok ok
  have stands := stands_of_buildFor accepted ok
  obtain ⟨build, isBuild, kept⟩ := stands _ .self
  obtain ⟨-, -, -, value⟩ := Workflow.finalize_ok finalized
  refine ⟨(finalize_enters accepted finalized).1, ?_, carriedBy_of_stands accepted stands finalized held⟩
  rw [value, Workflow.value, Workflow.currentOrEmpty, (describes accepted).cell, isBuild, Option.getD_some, kept.value]
  rfl

/-- A plan of two levels behind different entry points, with a step that is not sent, a clipboard that stands
in the plan and one that pastes what an earlier call returns. -/
def layeredPlan : PlanDocument :=
  let call (name : String) (callData : Bytes) (value : Option Uint256) (clipboard : Option PlanClipboard) : PlanStep :=
    ⟨name, some callData, some ⟨7⟩, some name, false, false, false, none, value, clipboard, none⟩
  .mk none .advancedPipe
    [call "swap" [1, 2, 3] (some 5) (some (.literal (.array [.int 4, .int 32, .int 100]) none)),
      { call "permit" [4] none none with onlyLocal := true },
      { call "inner" [] none none with
        callData := none, workflow := some (.mk none .advancedFarm [call "claim" [6] (some 2) none]) },
      call "deposit" [8, 9] none (some (.fromTag "inner" (some 0) 1))]

/-- The calldata of the plan inside, word by word. -/
def layeredInside : Bytes :=
  let word (byte : UInt8) : Bytes := List.replicate 31 0 ++ [byte]
  [0x36, 0xbf, 0xaf, 0xbd] ++ word 32 ++ word 1 ++ word 32 ++ word 64 ++ word 128 ++ word 1 ++
    [6] ++ List.replicate 31 0 ++ word 32 ++ List.replicate 32 0

/-- The calls of the plan, with the clipboards of the first and the last byte by byte. -/
def layeredCalls : List PreparedCall :=
  let paste (source copy place : UInt8) : Bytes :=
    [1, 0] ++ List.replicate 9 0 ++ [source] ++ List.replicate 9 0 ++ [copy] ++ List.replicate 9 0 ++ [place]
  [⟨some ⟨7⟩, [1, 2, 3], some (paste 4 32 100)⟩, ⟨some ⟨0⟩, layeredInside, some (List.replicate 32 0)⟩,
    ⟨some ⟨7⟩, [8, 9], some (paste 1 32 68)⟩]

theorem layeredPlan_carried :
    ∃ (workflow : Workflow Unit) (after : World Unit) (call : OutboundCall),
      layeredPlan.toWorkflow default [] = .ok workflow ∧
      workflow.build 7 .forward .empty (.start ()) = (.ok 7, after) ∧
      workflow.finalize after.cells = .ok call ∧ call.calldata.length < 2 ^ 64 ∧ call.value = 7 ∧
      layeredPlan.CarriedBy default .forward call.calldata ∧
      call.calldata.take 4 = [0xb4, 0x52, 0xc7, 0xae] ∧
      EncoderKind.advancedPipe.readArguments (call.calldata.drop 4) = .ok (layeredCalls, some 7) ∧
      EncoderKind.advancedFarm.readArguments (layeredInside.drop 4) =
        .ok ([⟨none, [6], some (List.replicate 32 0)⟩], none) := by
  obtain ⟨workflow, after, accepted, ok, seen⟩ :
      ∃ (workflow : Workflow Unit) (after : World Unit),
        layeredPlan.toWorkflow default [] = .ok workflow ∧
        workflow.build 7 .forward .empty (.start ()) = (.ok 7, after) ∧
        (workflow.finalize after.cells).toOption.any (fun call =>
          decide (call.calldata.length < 2 ^ 64 ∧ call.calldata.take 4 = [0xb4, 0x52, 0xc7, 0xae] ∧
            EncoderKind.advancedPipe.readArguments (call.calldata.drop 4) = .ok (layeredCalls, some 7))) = true :=
    ⟨_, _, rfl, rfl, by decide +kernel⟩
  cases finalized : workflow.finalize after.cells with
  | error e => simp [finalized, Except.toOption] at seen
  | ok call =>
    simp only [finalized, Except.toOption, Option.any_some, decide_eq_true_eq] at seen
    obtain ⟨held, selector, reads⟩ := seen
    obtain ⟨-, value, carried⟩ := finalize_carries_plan accepted ok finalized held
    exact ⟨workflow, after, call, accepted, ok, finalized, held, value, carried, selector, reads, by decide +kernel⟩

end PlanLevel

end CallWeave
