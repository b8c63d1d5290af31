import CallWeave.Proofs.Plan.Retagging

/-!
# Building backward

A build that goes backward asks the steps of each level from the last to the first, and a reference then finds no
tag. All the same it is a forward build, that of the plan without references (`PlanDocument.withoutReferences`):
both succeed or neither does, and they have the same tags and send the same (`PlanLevel.backward_builds_alike`).
-/

namespace CallWeave

variable {σ : Type}

/-- The clipboard without instructions, where there was a reference. -/
def PlanClipboard.withoutReference : PlanClipboard → PlanClipboard
  | .fromTag _ _ _ => .literal (.array []) none
  | .literal instructions value => .literal instructions value

/-- The change that leaves the tags and drops what refers to them. -/
def Retag.withoutReferences : Retag := ⟨id, PlanClipboard.withoutReference⟩

/-- A plan with no reference on any level. -/
def PlanDocument.withoutReferences (plan : PlanDocument) : PlanDocument :=
  plan.retagged (fun _ => .withoutReferences) []

/-- No instructions are written as the empty clipboard. -/
theorem PlanClipboard.source_noInstructions :
    (literal (.array []) none).source = .ok (.literal Clipboard.empty.toBytes) := rfl

/-- What a reference is resolved to backward is resolved forward without it. -/
theorem Retag.keeps_withoutReferences : withoutReferences.Keeps .reversed .forward where
  injective := Function.injective_id
  clipboards clipboard source isSource := by
    cases clipboard with
    | literal instructions value =>
      exact ⟨source, isSource, fun seen => PlanClipboard.resolve_literal isSource _ _⟩
    | fromTag tag copySlot pasteSlot =>
      obtain rfl : ClipboardSource.fromTag tag copySlot pasteSlot = source := Except.ok.inj isSource
      exact ⟨_, PlanClipboard.source_noInstructions, fun seen => rfl⟩

/-- A change that is the same on all levels does not depend on where the plan stands. -/
theorem PlanDocument.retagged_const (retag : Retag) (plan : PlanDocument) (cell other : CellId) :
    plan.retagged (fun _ => retag) cell = plan.retagged (fun _ => retag) other := by
  induction plan using PlanDocument.induction generalizing cell other with
  | level plan ih =>
    obtain ⟨workflow, kind, steps⟩ := plan
    rw [retagged, retagged, retaggedFrom_eq_mapIdx, retaggedFrom_eq_mapIdx]
    congr 1
    apply List.ext_getElem?
    intro place
    rw [List.getElem?_mapIdx, List.getElem?_mapIdx]
    refine Option.map_congr fun step isStep => ?_
    rw [retaggedAt, retaggedAt]
    congr 1
    exact Option.map_congr fun inner holds => ih step (List.mem_of_getElem? isStep) inner holds _ _

namespace PlanLevel

variable {contracts : Contracts} {workflow : Workflow σ}

/-- A build of an accepted plan backward succeeds exactly if one forward of the plan without references does,
whatever the amounts, the run data and the worlds are. Both have the same tags and names and the same value, and
they show the same outbound call or the same error instead of it. -/
theorem backward_builds_alike {plan : PlanDocument} {cell : CellId}
    (accepted : plan.toWorkflow contracts cell = .ok workflow) :
    ∃ flat : Workflow σ, plan.withoutReferences.toWorkflow contracts cell = .ok flat ∧
      ∀ (amount amount' : Uint256) (data data' : RunData) (world world' : World σ),
        let backward := workflow.build amount .reversed data world
        let forward := flat.build amount' .forward data' world'
        ((∃ out, backward.1 = .ok out) ↔ ∃ out, forward.1 = .ok out) ∧
        workflow.Mirrors backward.2.cells flat forward.2.cells ∧
        flat.tags forward.2.cells = workflow.tags backward.2.cells := by
  have accepted : (root plan cell).workflow contracts = .ok workflow := accepted
  have keeps (level : CellId) : Retag.withoutReferences.Keeps .reversed .forward := Retag.keeps_withoutReferences
  obtain ⟨flat, accepted'⟩ := exists_retagged keeps accepted
  refine ⟨flat, ?_, ?_⟩
  · rw [root_retagged, plan.retagged_const _ cell []] at accepted'
    exact accepted'
  intro amount amount' data data' world world' backward forward
  obtain ⟨both, mirrors, tags⟩ := build_retagged keeps rfl accepted accepted' amount amount' data data' world world'
  refine ⟨both, mirrors, tags.trans ?_⟩
  exact List.map_id _

/-- A plan with a reference on each of two levels, a fixed amount and a step that is not sent. -/
def bothWaysPlan : PlanDocument :=
  let call (name : String) (tag : Option String) (clipboard : Option PlanClipboard) : PlanStep :=
    ⟨name, some [1], some ⟨7⟩, tag, false, false, false, none, some 2, clipboard, none⟩
  let paste : PlanClipboard := .fromTag "swap" (some 0) 1
  .mk none .advancedPipe
    [{ call "swap" "swap" none with amountOut := some 9 }, { call "check" "check" none with onlyLocal := true },
      { call "inner" "inner" none with
        callData := none
        workflow := some (.mk none .advancedFarm [call "claim" "swap" none, call "wrap" none paste]) },
      call "deposit" none paste]

theorem bothWaysPlan_built :
    ∃ (workflow flat : Workflow Unit) (call : OutboundCall),
      bothWaysPlan.toWorkflow default [] = .ok workflow ∧
      bothWaysPlan.withoutReferences.toWorkflow default [] = .ok flat ∧
      workflow.finalize (workflow.build 7 .reversed .empty (.start ())).2.cells = .ok call ∧
      flat.finalize (flat.build 4 .forward .empty (.start ())).2.cells = .ok call ∧
      (flat.summary (flat.build 4 .forward .empty (.start ())).2.cells).map Prod.fst =
        ["swap", "check", "inner", "deposit"] ∧
      flat.tags (flat.build 4 .forward .empty (.start ())).2.cells = [("swap", 0), ("inner", 1)] := by
  have accepted : bothWaysPlan.toWorkflow default [] = .ok (_ : Workflow Unit) := rfl
  obtain ⟨flat, accepted', alike⟩ := backward_builds_alike accepted
  obtain ⟨-, mirrors, tags⟩ := alike 7 4 .empty .empty (.start ()) (.start ())
  exact ⟨_, flat, _, accepted, accepted', rfl, mirrors.finalize, mirrors.names, tags⟩

end PlanLevel

end CallWeave
