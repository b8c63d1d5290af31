import CallWeave.Proofs.Plan.Calldata

/-!
# The funds of a plan

A plan is a tree with raw calls as its leaves, and what it costs is what they cost. `PlanDocument.rawSteps` lists
them with the steps around them, `PlanDocument.funds` adds up the values of those that are built: neither they nor
any step around them is left out. Modulo `2 ^ 256` that is the value of every build of the plan
(`PlanDocument.ofNat_funds`). A nested pipe writes the value of its own plan into its arguments, and these are read
down the calldata along the positions of the calls (`PlanDocument.payloadAt`).
-/

namespace CallWeave

variable {σ : Type}

/-- A raw call of a plan, at any depth, with the steps around it from the outside in. -/
structure RawStep where
  around : List PlanStep
  step : PlanStep

namespace RawStep

/-- Neither the step nor one around it is left out. -/
def isBuilt (mode : RunMode) (raw : RawStep) : Bool :=
  raw.around.all (·.takesPart mode) && raw.step.takesPart mode

/-- The value that the step asks for. -/
def value (raw : RawStep) : Nat := (raw.step.value.getD 0).toNat

/-- The same step in a plan around it. -/
def within (outer : PlanStep) (raw : RawStep) : RawStep := { raw with around := outer :: raw.around }

/-- What some raw calls cost when they are built, nothing wrapping around. -/
def funds (mode : RunMode) (raws : List RawStep) : Nat := ((raws.filter (isBuilt mode)).map value).sum

variable {mode : RunMode}

theorem funds_append (one other : List RawStep) : funds mode (one ++ other) = funds mode one + funds mode other := by
  simp [funds]

/-- Raw calls inside a step cost nothing when it is left out, and otherwise what they cost by themselves. -/
theorem funds_within (outer : PlanStep) (raws : List RawStep) :
    funds mode (raws.map (within outer)) = if outer.takesPart mode then funds mode raws else 0 := by
  have isBuilt_within : isBuilt mode ∘ within outer = fun raw => outer.takesPart mode && isBuilt mode raw := by
    funext raw
    simp [isBuilt, within, Bool.and_assoc]
  have value_within : value ∘ within outer = value := rfl
  rw [funds, List.filter_map, isBuilt_within, List.map_map, value_within]
  cases outer.takesPart mode <;> simp [funds]

end RawStep

namespace PlanDocument

mutual

/-- The raw calls of a plan. -/
def rawSteps : PlanDocument → List RawStep
  | .mk _ _ steps => rawStepsIn steps

/-- The raw calls in some steps. -/
def rawStepsIn : List PlanStep → List RawStep
  | [] => []
  | step :: rest => rawStepsOf step.workflow step ++ rawStepsIn rest

/-- A step itself when it holds no plan, and otherwise the raw calls inside. -/
def rawStepsOf : Option PlanDocument → PlanStep → List RawStep
  | none, step => [⟨[], step⟩]
  | some inner, step => inner.rawSteps.map (.within step)

end

/-- What the raw calls of a plan cost that are built in a mode. -/
def funds (mode : RunMode) (plan : PlanDocument) : Nat := RawStep.funds mode plan.rawSteps

variable {contracts : Contracts} {mode : RunMode} {plan deep : PlanDocument} {path : List Nat} {data : Bytes}

/-- Modulo `2 ^ 256`, a step costs what it adds to the value of its plan. -/
theorem ofNat_funds_rawStepsOf (step : PlanStep)
    (inside : ∀ inner ∈ step.workflow, BitVec.ofNat 256 (inner.funds mode) = inner.valueIn mode) :
    BitVec.ofNat 256 (RawStep.funds mode (rawStepsOf step.workflow step)) =
      if step.takesPart mode then valueOf mode step.workflow step.value else 0 := by
  cases holds : step.workflow with
  | none =>
    rw [rawStepsOf, valueOf]
    cases takesPart : step.takesPart mode <;> simp [RawStep.funds, RawStep.isBuilt, RawStep.value, takesPart]
  | some inner =>
    rw [rawStepsOf, valueOf, RawStep.funds_within, ← inside inner holds, funds]
    split <;> rfl

/-- Modulo `2 ^ 256`, what a plan costs is its value. -/
theorem ofNat_funds (mode : RunMode) (plan : PlanDocument) :
    BitVec.ofNat 256 (plan.funds mode) = plan.valueIn mode := by
  induction plan using PlanDocument.induction with
  | level plan ih =>
    obtain ⟨workflow, kind, steps⟩ := plan
    rw [funds, rawSteps, valueIn]
    replace ih : ∀ step ∈ steps, ∀ inner ∈ step.workflow, BitVec.ofNat 256 (inner.funds mode) = inner.valueIn mode := ih
    induction steps with
    | nil =>
      rw [rawStepsIn, valuesIn]
      rfl
    | cons step rest later =>
      rw [rawStepsIn, valuesIn, RawStep.funds_append, BitVec.ofNat_add,
        ofNat_funds_rawStepsOf step (ih step List.mem_cons_self),
        later fun other isIn => ih other (List.mem_cons_of_mem _ isIn)]

/-! ## Along the calls -/

/-- The plan that positions lead to, each the one of a call among those that the plan sends. -/
def sentAt (mode : RunMode) : List Nat → PlanDocument → Option PlanDocument
  | [], plan => some plan
  | position :: path, plan => do
    let (step, _) ← (plan.sent mode)[position]?
    let inner ← step.workflow
    sentAt mode path inner

/-- The calldata that positions lead to: at each, the payload that is read there in the arguments of the plan. -/
def payloadAt (mode : RunMode) : List Nat → PlanDocument → Bytes → Option Bytes
  | [], _, data => some data
  | position :: path, plan, data => do
    let (step, _) ← (plan.sent mode)[position]?
    let inner ← step.workflow
    let (calls, _) ← (plan.kind.readArguments (data.drop 4)).toOption
    let call ← calls[position]?
    payloadAt mode path inner call.payload

/-- What is read of calldata that carry a plan, behind the selector. -/
theorem CarriedBy.reads_drop (carried : plan.CarriedBy contracts mode data) :
    ∃ calls, plan.kind.readArguments (data.drop 4) = .ok (calls, plan.kind.carriedValue (plan.valueIn mode)) ∧
      calls.length = (plan.sent mode).length ∧
      ∀ (position : Nat) (step : PlanStep) (place : Nat) (call : PreparedCall) (inner : PlanDocument),
        (plan.sent mode)[position]? = some (step, place) → calls[position]? = some call →
        step.workflow = some inner → inner.CarriedBy contracts mode call.payload := by
  obtain ⟨reads, each, -, -, inside⟩ := carried
  have length : plan.kind.selector.length = 4 := by cases plan.kind <;> rfl
  rw [List.drop_left' length]
  exact ⟨_, reads, each, inside⟩

/-- Where calldata carry a plan, the calldata further in carry the plan further in. -/
theorem CarriedBy.payloadAt (carried : plan.CarriedBy contracts mode data)
    (isDeep : sentAt mode path plan = some deep) :
    ∃ payload, payloadAt mode path plan data = some payload ∧ deep.CarriedBy contracts mode payload := by
  induction path generalizing plan data with
  | nil =>
    obtain rfl := Option.some.inj isDeep
    exact ⟨data, rfl, carried⟩
  | cons position path ih =>
    obtain ⟨⟨step, place⟩, isSent, isDeep⟩ := Option.bind_eq_some_iff.mp isDeep
    obtain ⟨inner, holds, isDeep⟩ := Option.bind_eq_some_iff.mp isDeep
    obtain ⟨calls, reads, each, inside⟩ := carried.reads_drop
    have isLess : position < calls.length := each ▸ (List.getElem?_eq_some_iff.mp isSent).1
    have isCall : calls[position]? = some calls[position] := List.getElem?_eq_getElem isLess
    obtain ⟨payload, found, carries⟩ := ih (inside position step place _ inner isSent isCall holds) isDeep
    refine ⟨payload, ?_, carries⟩
    simp [PlanDocument.payloadAt, isSent, holds, reads, Except.toOption, isCall, found]

end PlanDocument

namespace PlanLevel

variable {contracts : Contracts} {workflow : Workflow σ}

/-- After a build of a plan, in any mode, the value is what the raw calls cost that were built, at whatever depth,
modulo `2 ^ 256`. In the call that is finalized, every pipe among the nested plans that are sent has in its
arguments what its own raw calls cost. -/
theorem value_conserved {plan : PlanDocument} {cell : CellId} (accepted : plan.toWorkflow contracts cell = .ok workflow)
    {amount : Uint256} {mode : RunMode} {data : RunData} {world after : World σ} {out : Uint256}
    (ok : workflow.build amount mode data world = (.ok out, after)) :
    (workflow.value after.cells).toNat = plan.funds mode % 2 ^ 256 ∧
    ∀ call, workflow.finalize after.cells = .ok call → call.calldata.length < 2 ^ 64 →
      ∀ path deep, PlanDocument.sentAt mode path plan = some deep →
        ∃ payload, PlanDocument.payloadAt mode path plan call.calldata = some payload ∧
          (deep.kind = .advancedPipe → ∃ calls,
            EncoderKind.advancedPipe.readArguments (payload.drop 4) =
              .ok (calls, some (BitVec.ofNat 256 (deep.funds mode)))) := by
  have accepted : (root plan cell).workflow contracts = .ok workflow := accepted
  obtain ⟨built, -, ok⟩ := Workflow.build_ok ok
  have stands := stands_of_buildFor accepted ok
  refine ⟨?_, fun call finalized held path deep isDeep => ?_⟩
  · obtain ⟨build, isBuild, kept⟩ := stands _ .self
    rw [Workflow.value, Workflow.currentOrEmpty, (describes accepted).cell, isBuild, Option.getD_some, kept.value,
      ← PlanDocument.ofNat_funds, BitVec.toNat_ofNat]
    rfl
  · obtain ⟨payload, found, carries⟩ := (carriedBy_of_stands accepted stands finalized held).payloadAt isDeep
    refine ⟨payload, found, fun isPipe => ?_⟩
    obtain ⟨calls, reads, -⟩ := carries.reads_drop
    rw [isPipe, EncoderKind.carriedValue, ← PlanDocument.ofNat_funds] at reads
    exact ⟨calls, reads⟩

/-- A local step that asks for nearly everything, a skipped one, and a pipe that holds another one, which is left to
the modes with the full transaction. -/
def costlyPlan : PlanDocument :=
  let call (name : String) (value : Uint256) : PlanStep :=
    ⟨name, some [1], some ⟨7⟩, none, false, false, false, none, some value, none, none⟩
  let pipe (name : String) (steps : List PlanStep) : PlanStep :=
    { call name 1 with callData := none, workflow := some (.mk none .advancedPipe steps) }
  .mk none .farm
    [{ call "fee" (BitVec.allOnes 256) with onlyLocal := true }, { call "unused" 100 with skip := true },
      pipe "outer" [call "swap" 5, { pipe "inner" [call "claim" 7] with onlyExecute := true }]]

/-- The pipes hold 12 and 7, and with the local step all of it comes to `2 ^ 256 + 11`. -/
theorem costlyPlan_value :
    ∃ (workflow : Workflow Unit) (after : World Unit) (call : OutboundCall) (outer inner : Bytes),
      costlyPlan.toWorkflow default [] = .ok workflow ∧
      workflow.build 0 .execute .empty (.start ()) = (.ok 0, after) ∧
      workflow.finalize after.cells = .ok call ∧ (workflow.value after.cells).toNat = 11 ∧
      PlanDocument.payloadAt .execute [0] costlyPlan call.calldata = some outer ∧
      (∃ calls, EncoderKind.advancedPipe.readArguments (outer.drop 4) = .ok (calls, some 12)) ∧
      PlanDocument.payloadAt .execute [0, 1] costlyPlan call.calldata = some inner ∧
      ∃ calls, EncoderKind.advancedPipe.readArguments (inner.drop 4) = .ok (calls, some 7) := by
  obtain ⟨workflow, after, accepted, ok, sent⟩ :
      ∃ (workflow : Workflow Unit) (after : World Unit),
        costlyPlan.toWorkflow default [] = .ok workflow ∧
        workflow.build 0 .execute .empty (.start ()) = (.ok 0, after) ∧
        (workflow.finalize after.cells).toOption.any (fun call => decide (call.calldata.length < 2 ^ 64)) = true :=
    ⟨_, _, rfl, rfl, by decide +kernel⟩
  obtain ⟨call, finalized, held⟩ :
      ∃ call, workflow.finalize after.cells = .ok call ∧ call.calldata.length < 2 ^ 64 := by
    cases answer : workflow.finalize after.cells with
    | error e => simp [answer, Except.toOption] at sent
    | ok call => exact ⟨call, rfl, by simpa [answer, Except.toOption] using sent⟩
  obtain ⟨value, inside⟩ := value_conserved accepted ok
  have total : costlyPlan.funds .execute % 2 ^ 256 = 11 := by decide +kernel
  have reads (path : List Nat) (funds : Uint256)
      (isPipe : ∃ deep, PlanDocument.sentAt .execute path costlyPlan = some deep ∧ deep.kind = .advancedPipe ∧
        BitVec.ofNat 256 (deep.funds .execute) = funds) :
      ∃ payload, PlanDocument.payloadAt .execute path costlyPlan call.calldata = some payload ∧
        ∃ calls, EncoderKind.advancedPipe.readArguments (payload.drop 4) = .ok (calls, some funds) := by
    obtain ⟨deep, isDeep, isPipe, rfl⟩ := isPipe
    obtain ⟨payload, found, reads⟩ := inside call finalized held path deep isDeep
    exact ⟨payload, found, reads isPipe⟩
  obtain ⟨outer, foundOuter, readsOuter⟩ := reads [0] 12 ⟨_, rfl, rfl, by decide +kernel⟩
  obtain ⟨inner, foundInner, readsInner⟩ := reads [0, 1] 7 ⟨_, rfl, rfl, by decide +kernel⟩
  exact ⟨workflow, after, call, outer, inner, accepted, ok, finalized, value.trans total, foundOuter, readsOuter,
    foundInner, readsInner⟩

end PlanLevel

end CallWeave
