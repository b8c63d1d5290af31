import CallWeave.Proofs.Plan.Retagging
import Mathlib.Logic.Equiv.Basic

/-!
# Tags by other names

Every level of a plan has tags of its own. They may be renamed on one level without regard to another, as long as
no two tags of a level become one: the renamed plan is built exactly if the plan is, with the same outbound call
(`PlanLevel.renamed_builds_alike`). So no tag of a level is seen from another one, and none is taken there.
-/

namespace CallWeave

variable {σ : Type}

/-- The tag that a clipboard refers to by another name. -/
def PlanClipboard.renamed (rename : String → String) : PlanClipboard → PlanClipboard
  | .fromTag tag copySlot pasteSlot => .fromTag (rename tag) copySlot pasteSlot
  | .literal instructions value => .literal instructions value

/-- The change that renames the tags of a level where they are given and where they are referred to. -/
def Retag.byName (rename : String → String) : Retag := ⟨rename, PlanClipboard.renamed rename⟩

/-- A plan whose workflow is in a cell, the tags of each level renamed in a way of its own. -/
def PlanDocument.renamed (rename : CellId → String → String) (plan : PlanDocument) (cell : CellId) : PlanDocument :=
  plan.retagged (fun level => .byName (rename level)) cell

/-- A tag is found by its new name where it was found by its old one. -/
theorem lookup_map_of_injective {rename : String → String} (injective : Function.Injective rename) (tags : TagIndex)
    (tag : String) : (tags.map (Prod.map rename id)).lookup (rename tag) = tags.lookup tag := by
  induction tags with
  | nil => rfl
  | cons first rest ih =>
    obtain ⟨other, position⟩ := first
    rw [List.map_cons, Prod.map_apply, List.lookup_cons, List.lookup_cons, ih]
    by_cases same : tag = other
    · rw [same, beq_self_eq_true, beq_self_eq_true]
      rfl
    · rw [beq_false_of_ne same, beq_false_of_ne (injective.ne same)]

/-- Renaming keeps what the clipboards are resolved to, in every mode. -/
theorem Retag.keeps_byName {rename : String → String} (injective : Function.Injective rename) (mode : RunMode) :
    (byName rename).Keeps mode mode where
  injective := injective
  clipboards clipboard source isSource := by
    cases clipboard with
    | literal instructions value =>
      exact ⟨source, isSource, fun seen => PlanClipboard.resolve_literal isSource _ _⟩
    | fromTag tag copySlot pasteSlot =>
      obtain rfl : ClipboardSource.fromTag tag copySlot pasteSlot = source := Except.ok.inj isSource
      refine ⟨.fromTag (rename tag) copySlot pasteSlot, rfl, fun seen => ?_⟩
      -- backward neither name is found, as nothing is
      have found : (if mode.isReversed then [] else (byName rename).tags seen).lookup (rename tag) =
          (if mode.isReversed then [] else seen).lookup tag := by
        by_cases backward : mode.isReversed = true
        · rw [if_pos backward, if_pos backward]
          rfl
        · rw [if_neg backward, if_neg backward]
          exact lookup_map_of_injective injective seen tag
      simp only [ClipboardSource.resolve, RunContext.pasteFrom, RunContext.ofTags, found]

namespace PlanLevel

variable {contracts : Contracts} {workflow : Workflow σ}

/-- Whatever the tags of each level of an accepted plan are renamed to, as long as no two of a level become one, the
renamed plan is accepted. In every mode, it is built exactly if the plan is, and shows what the plan shows, its
outbound call or the error instead of it among the rest. Its tags are the renamed ones, and so it is on every level
that the build reaches: a level has the tags of its own steps and refers to no others, and they are renamed as that
level says. -/
theorem renamed_builds_alike {plan : PlanDocument} {cell : CellId} {rename : CellId → String → String}
    (accepted : plan.toWorkflow contracts cell = .ok workflow)
    (injective : ∀ level, Function.Injective (rename level)) :
    ∃ renamed : Workflow σ, (plan.renamed rename cell).toWorkflow contracts cell = .ok renamed ∧
      ∀ (mode : RunMode) (amount : Uint256) (data : RunData) (world world' : World σ),
        let built := workflow.build amount mode data world
        let again := renamed.build amount mode data world'
        ((∃ out, built.1 = .ok out) ↔ ∃ out, again.1 = .ok out) ∧
        workflow.Mirrors built.2.cells renamed again.2.cells ∧
        renamed.tags again.2.cells = (workflow.tags built.2.cells).map (Prod.map (rename cell) id) ∧
        ∀ out, built.1 = .ok out → ∀ deep, Reaches mode (root plan cell) deep →
          ∃ own other, built.2.cells deep.cell = some own ∧ again.2.cells deep.cell = some other ∧
            deep.Kept mode own ∧ other.tags = own.tags.map (Prod.map (rename deep.cell) id) := by
  have accepted : (root plan cell).workflow contracts = .ok workflow := accepted
  have keeps (mode : RunMode) (level : CellId) : (Retag.byName (rename level)).Keeps mode mode :=
    Retag.keeps_byName (injective level) mode
  obtain ⟨renamed, accepted'⟩ := exists_retagged (keeps .forward) accepted
  refine ⟨renamed, ?_, ?_⟩
  · rw [root_retagged] at accepted'
    exact accepted'
  intro mode amount data world world' built again
  obtain ⟨both, mirrors, tags⟩ := build_retagged (keeps mode) rfl accepted accepted' amount amount data data world world'
  refine ⟨both, mirrors, tags, ?_⟩
  intro out ok deep reaches
  obtain ⟨out', ok'⟩ := both.mp ⟨out, ok⟩
  obtain ⟨own, isOwn, kept⟩ := stands_of_build accepted ok deep reaches
  obtain ⟨other, isOther, kept'⟩ := stands_of_build accepted' ok' _ (reaches.retagged rfl)
  refine ⟨own, other, isOwn, isOther, kept, ?_⟩
  rw [kept'.tags, kept.tags]
  exact PlanDocument.tagsIn_retagged _ rfl deep.plan deep.cell

/-- A plan that gives one tag on two levels and refers to it on both. -/
def twiceTaggedPlan : PlanDocument :=
  let call (name : String) (tag : Option String) (clipboard : Option PlanClipboard) : PlanStep :=
    ⟨name, some [1], none, tag, false, false, false, none, none, clipboard, none⟩
  let paste : PlanClipboard := .fromTag "swap" (some 0) 1
  .mk none .advancedFarm
    [call "permit" "permit" none, call "swap" "swap" none,
      { call "inner" "inner" none with
        callData := none
        workflow := some (.mk none .advancedFarm [call "claim" "swap" none, call "wrap" none paste]) },
      call "deposit" none paste]

/-- The outer level takes two names the other way round, while the inner one keeps its tag. -/
theorem twiceTaggedPlan_renamed :
    ∃ (rename : CellId → String → String) (workflow renamed : Workflow Unit) (call : OutboundCall)
      (inner other : Build),
      rename [0] "swap" = "permit" ∧ rename [2, 0] "swap" = "swap" ∧
      (∀ level, Function.Injective (rename level)) ∧
      twiceTaggedPlan.toWorkflow default [0] = .ok workflow ∧
      (twiceTaggedPlan.renamed rename [0]).toWorkflow default [0] = .ok renamed ∧
      workflow.finalize (workflow.build 7 .forward .empty (.start ())).2.cells = .ok call ∧
      renamed.finalize (renamed.build 7 .forward .empty (.start ())).2.cells = .ok call ∧
      renamed.tags (renamed.build 7 .forward .empty (.start ())).2.cells =
        [("swap", 0), ("permit", 1), ("inner", 2)] ∧
      (workflow.build 7 .forward .empty (.start ())).2.cells [2, 0] = some inner ∧
      (renamed.build 7 .forward .empty (.start ())).2.cells [2, 0] = some other ∧
      inner.tags = [("swap", 0)] ∧ other.tags = [("swap", 0)] := by
  let rename (level : CellId) : String → String := if level = [0] then Equiv.swap "swap" "permit" else id
  have injective (level : CellId) : Function.Injective (rename level) := by
    by_cases outer : level = [0]
    · simp only [rename, if_pos outer]
      exact (Equiv.swap "swap" "permit").injective
    · simp only [rename, if_neg outer]
      exact Function.injective_id
  have accepted : twiceTaggedPlan.toWorkflow default [0] = .ok (_ : Workflow Unit) := rfl
  obtain ⟨renamed, accepted', alike⟩ := renamed_builds_alike accepted injective
  obtain ⟨-, mirrors, tags, below⟩ := alike .forward 7 .empty (.start ()) (.start ())
  have below := below 7 rfl
  have isStep : twiceTaggedPlan.steps[2]? = some _ := rfl
  obtain ⟨inner, other, isInner, isOther, kept, again⟩ := below _ (.within isStep rfl rfl .self)
  refine ⟨rename, _, renamed, _, inner, other, rfl, rfl, injective, accepted, accepted', rfl, mirrors.finalize, ?_,
    isInner, isOther, kept.tags, ?_⟩
  · rw [tags]
    rfl
  · rw [again, kept.tags]
    rfl

end PlanLevel

end CallWeave
