import CallWeave.Proofs.Plan.Matching

/-!
# Plans with other tags

The tags and the clipboards of a plan can be changed, on every level in its own way, while all else stays as it is
(`PlanDocument.retagged`). If tags that differ still do so and the clipboards are resolved to what they were
(`Retag.Keeps`), the plan that comes of it is accepted (`PlanLevel.exists_retagged`) and matches the first
(`PlanLevel.matches_retagged`).
-/

namespace CallWeave

variable {σ : Type}

/-! ## Changing tags -/

/-- How the tags and the clipboards of a level change. -/
structure Retag where
  tag : String → String
  clipboard : PlanClipboard → PlanClipboard

namespace Retag

/-- A step with its tag and its clipboard changed, and with another plan inside. -/
def step (retag : Retag) (step : PlanStep) (inside : Option PlanDocument) : PlanStep :=
  { step with
    tag := step.tag.map retag.tag, clipboard := step.clipboard.map retag.clipboard, workflow := inside }

/-- Tags with their positions, the tags changed. -/
def tags (retag : Retag) (tags : TagIndex) : TagIndex := tags.map (Prod.map retag.tag id)

theorem map_fst_tags (retag : Retag) (tags : TagIndex) :
    (retag.tags tags).map Prod.fst = (tags.map Prod.fst).map retag.tag := by
  rw [Retag.tags, List.map_map, List.map_map]
  rfl

/-- Tags that differ do so after the change, and every clipboard is resolved in the one mode as it was in the
other. -/
structure Keeps (one other : RunMode) (retag : Retag) : Prop where
  injective : Function.Injective retag.tag
  clipboards : ∀ (clipboard : PlanClipboard) (source : ClipboardSource), clipboard.source = .ok source →
    ∃ source', (retag.clipboard clipboard).source = .ok source' ∧ ∀ tags : TagIndex,
      source'.resolve (.ofTags (if other.isReversed then [] else retag.tags tags)) =
        source.resolve (.ofTags (if one.isReversed then [] else tags))

end Retag

namespace PlanDocument

mutual

/-- A plan whose workflow is in a cell, with its tags changed; the cell of a level says how that level changes. -/
def retagged (retag : CellId → Retag) : PlanDocument → CellId → PlanDocument
  | .mk workflow kind steps, cell => .mk workflow kind (retaggedFrom retag steps cell 0)

/-- Steps with their tags changed, the first of which stands at `position`. -/
def retaggedFrom (retag : CellId → Retag) : List PlanStep → CellId → (position : Nat) → List PlanStep
  | [], _, _ => []
  | step :: rest, cell, position =>
    (retag cell).step step (retaggedIn retag step.workflow (position :: cell)) ::
      retaggedFrom retag rest cell (position + 1)

/-- A nested plan with its tags changed, if there is one. -/
def retaggedIn (retag : CellId → Retag) : Option PlanDocument → CellId → Option PlanDocument
  | none, _ => none
  | some plan, cell => some (plan.retagged retag cell)

end

variable {retag : CellId → Retag}

@[simp] theorem workflow_retagged (plan : PlanDocument) (cell : CellId) :
    (plan.retagged retag cell).workflow = plan.workflow := by
  obtain ⟨workflow, kind, steps⟩ := plan
  rw [retagged, PlanDocument.workflow, PlanDocument.workflow]

@[simp] theorem kind_retagged (plan : PlanDocument) (cell : CellId) :
    (plan.retagged retag cell).kind = plan.kind := by
  obtain ⟨workflow, kind, steps⟩ := plan
  rw [retagged, PlanDocument.kind, PlanDocument.kind]

theorem retaggedIn_eq_map (nested : Option PlanDocument) (cell : CellId) :
    retaggedIn retag nested cell = nested.map fun inner => inner.retagged retag cell := by
  cases nested <;> simp [retaggedIn]

/-- A step of a level after the change. -/
def retaggedAt (retag : CellId → Retag) (cell : CellId) (place : Nat) (step : PlanStep) : PlanStep :=
  (retag cell).step step (step.workflow.map fun inner => inner.retagged retag (place :: cell))

theorem retaggedFrom_eq_mapIdx (steps : List PlanStep) (cell : CellId) (position : Nat) :
    retaggedFrom retag steps cell position = steps.mapIdx fun place => retaggedAt retag cell (position + place) := by
  induction steps generalizing position with
  | nil => simp [retaggedFrom]
  | cons step rest ih =>
    rw [retaggedFrom, ih, List.mapIdx_cons, retaggedIn_eq_map]
    simp only [Nat.add_assoc, Nat.add_comm 1]
    rfl

/-- The steps after the change are those before, each changed in its place. -/
theorem steps_retagged (plan : PlanDocument) (cell : CellId) :
    (plan.retagged retag cell).steps = plan.steps.mapIdx (retaggedAt retag cell) := by
  obtain ⟨workflow, kind, steps⟩ := plan
  rw [retagged, PlanDocument.steps, PlanDocument.steps, retaggedFrom_eq_mapIdx]
  simp only [Nat.zero_add]

/-- What is so of each step and what it is changed to is so of all pairs. -/
theorem forall₂_retagged {R : PlanStep → PlanStep → Prop} {plan : PlanDocument} {cell : CellId}
    (each : ∀ (place : Nat) (step : PlanStep), R step (retaggedAt retag cell place step)) :
    List.Forall₂ R plan.steps (plan.retagged retag cell).steps := by
  rw [steps_retagged, List.forall₂_iff_get]
  refine ⟨by simp, fun place isLess isLess' => ?_⟩
  simpa using each place plan.steps[place]

end PlanDocument

/-! ## What does not change -/

/-- Instructions that stand in the plan are resolved to the same bytes whatever tags are seen. -/
theorem PlanClipboard.resolve_literal {instructions : Json} {value : Option Uint256} {source : ClipboardSource}
    (isSource : (literal instructions value).source = .ok source) (context context' : RunContext) :
    source.resolve context = source.resolve context' := by
  simp only [PlanClipboard.source] at isSource
  cases read : PasteParams.ofJson instructions with
  | error e => simp [read] at isSource
  | ok params =>
    simp only [read] at isSource
    generalize Clipboard.encode params (value.getD 0) = encoded at isSource
    cases encoded with
    | error e => cases isSource
    | ok bytes =>
      obtain rfl : ClipboardSource.literal bytes = source := Except.ok.inj isSource
      rfl

/-- The index of changed tags. -/
theorem tagIndex_map (f : String → String) (tags : List (Option String)) :
    tagIndex (tags.map (Option.map f)) = (tagIndex tags).map (Prod.map f id) := by
  rw [tagIndex, tagIndex, List.zipIdx_map, List.filterMap_map, List.map_filterMap]
  congr 1
  funext placed
  cases placed with
  | mk tag position => cases tag <;> rfl

/-- Steps that are sent together have changed tags. -/
theorem PlanDocument.tagsIn_of_forall₂ {one other : RunMode} {f : String → String} {steps steps' : List PlanStep}
    (pairs : List.Forall₂ (fun step step' => step.isSent one = step'.isSent other ∧ step'.tag = step.tag.map f)
      steps steps') :
    tagsIn other steps' = (tagsIn one steps).map (Prod.map f id) := by
  rw [tagsIn, tagsIn, ← tagIndex_map]
  congr 1
  induction pairs with
  | nil => rfl
  | @cons step step' _ _ related _ ih =>
    obtain ⟨isSent, tag⟩ := related
    rw [List.filter_cons, List.filter_cons, isSent]
    by_cases isSent : step'.isSent other = true
    · rw [if_pos isSent, if_pos isSent, List.map_cons, List.map_cons, List.map_cons, tag, ih]
    · rw [if_neg isSent, if_neg isSent, ih]

/-- A step becomes a raw call exactly if its clipboard, if it has one, has a source. -/
theorem PlanStepOf.exists_rawCall_iff {δ : Type} {step : PlanStepOf δ} {callData : Bytes} :
    (∃ raw, step.rawCall callData = .ok raw) ↔ ∀ clipboard ∈ step.clipboard, ∃ source, clipboard.source = .ok source := by
  rw [rawCall]
  cases step.clipboard with
  | none => simp
  | some clipboard => cases sourced : clipboard.source <;> simp [sourced]

section Retagged

variable {one other : RunMode} (retag : CellId → Retag)

/-- A step has the same part after the change, in a mode that treats the full transaction alike. -/
theorem PlanDocument.matches_retaggedAt (static : one.isStatic = other.isStatic) (cell : CellId) (place : Nat)
    (step : PlanStep) : step.Matches one other (retaggedAt retag cell place step) where
  name := rfl
  callData := rfl
  target := rfl
  value := rfl
  onlyLocal := rfl
  takesPart := by simp [PlanStepOf.takesPart, retaggedAt, Retag.step, static]
  flat := by simp [retaggedAt, Retag.step]

/-- The tags of the first steps after the change. -/
theorem PlanDocument.tagsIn_take_retagged (static : one.isStatic = other.isStatic) (plan : PlanDocument)
    (cell : CellId) (count : Nat) :
    tagsIn other ((plan.retagged retag cell).steps.take count) = (retag cell).tags (tagsIn one (plan.steps.take count)) := by
  refine tagsIn_of_forall₂ (List.forall₂_take count (forall₂_retagged fun place step => ⟨?_, rfl⟩))
  exact (matches_retaggedAt retag static cell place step).isSent

/-- The tags of a level after the change. -/
theorem PlanDocument.tagsIn_retagged (static : one.isStatic = other.isStatic) (plan : PlanDocument) (cell : CellId) :
    tagsIn other (plan.retagged retag cell).steps = (retag cell).tags (tagsIn one plan.steps) := by
  have tags := tagsIn_take_retagged retag static plan cell plan.steps.length
  have sameLength : (plan.retagged retag cell).steps.length = plan.steps.length := by simp [steps_retagged]
  rwa [List.take_length, ← sameLength, List.take_length] at tags

namespace PlanLevel

variable {contracts : Contracts} {level deep : PlanLevel} {workflow : Workflow σ} {retag}

/-- A level with its tags changed. -/
def retagged (retag : CellId → Retag) (level : PlanLevel) : PlanLevel :=
  ⟨level.plan.retagged retag level.cell, level.cell, level.name⟩

theorem root_retagged (plan : PlanDocument) (cell : CellId) :
    (root plan cell).retagged retag = root (plan.retagged retag cell) cell := by
  simp [root, retagged, PlanDocument.name]

/-- What is below a step after the change is what was below it, changed. -/
theorem inside_retagged (place : Nat) (step : PlanStep) (inner : PlanDocument) :
    (level.retagged retag).inside place (PlanDocument.retaggedAt retag level.cell place step)
      (inner.retagged retag (place :: level.cell)) = (level.inside place step inner).retagged retag := by
  simp [inside, retagged, PlanDocument.retaggedAt, Retag.step]

theorem getElem?_retagged (place : Nat) :
    (level.retagged retag).plan.steps[place]? =
      level.plan.steps[place]?.map (PlanDocument.retaggedAt retag level.cell place) := by
  rw [retagged, PlanDocument.steps_retagged, List.getElem?_mapIdx]

/-- A plan that is accepted is accepted with its tags changed. -/
theorem exists_retagged (keeps : ∀ cell, (retag cell).Keeps one other)
    (accepted : level.workflow contracts = .ok workflow) :
    ∃ retagged : Workflow σ, (level.retagged retag).workflow contracts = .ok retagged := by
  induction level using PlanLevel.induction generalizing workflow with
  | level level ih =>
    rw [exists_workflow_iff]
    intro place step' isStep'
    rw [getElem?_retagged, Option.map_eq_some_iff] at isStep'
    obtain ⟨step, isStep, rfl⟩ := isStep'
    obtain ⟨generator, becomes⟩ := exists_workflow_iff.mp ⟨workflow, accepted⟩ place step isStep
    cases becomes with
    | @call callData raw data flat made =>
      have sourced := PlanStepOf.exists_rawCall_iff.mp ⟨raw, made⟩
      obtain ⟨raw', made'⟩ :
          ∃ raw', (PlanDocument.retaggedAt retag level.cell place step).rawCall callData = .ok raw' := by
        rw [PlanStepOf.exists_rawCall_iff]
        intro clipboard' isClipboard'
        obtain ⟨clipboard, isClipboard, rfl⟩ := Option.map_eq_some_iff.mp isClipboard'
        obtain ⟨source, isSource⟩ := sourced clipboard isClipboard
        obtain ⟨source', isSource', -⟩ := (keeps level.cell).clipboards clipboard source isSource
        exact ⟨source', isSource'⟩
      exact ⟨_, .call data (by simp [PlanDocument.retaggedAt, Retag.step, flat]) made'⟩
    | @plan inner below noData holds accepted =>
      obtain ⟨below', accepted'⟩ := ih place step inner isStep holds accepted
      rw [← inside_retagged] at accepted'
      exact ⟨_, .plan noData (by simp [PlanDocument.retaggedAt, Retag.step, holds]) accepted'⟩

/-- The clipboard of a raw call is resolved after the change to what it was. -/
theorem clipboardSeeing_retagged (keeps : ∀ cell, (retag cell).Keeps one other) (static : one.isStatic = other.isStatic)
    {place : Nat} {step : PlanStep} {callData : Bytes} {raw : RawCall} (made : step.rawCall callData = .ok raw) :
    step.clipboardSeeing (PlanDocument.tagsSeen one (level.plan.steps.take place)) =
      (PlanDocument.retaggedAt retag level.cell place step).clipboardSeeing
        (PlanDocument.tagsSeen other ((level.retagged retag).plan.steps.take place)) := by
  have sourced := PlanStepOf.exists_rawCall_iff.mp ⟨raw, made⟩
  rw [PlanDocument.tagsSeen, PlanDocument.tagsSeen, retagged, PlanDocument.tagsIn_take_retagged retag static]
  cases given : step.clipboard with
  | none => simp [PlanStepOf.clipboardSeeing_eq, PlanDocument.retaggedAt, Retag.step, given]
  | some clipboard =>
    obtain ⟨source, isSource⟩ := sourced clipboard given
    obtain ⟨source', isSource', same⟩ := (keeps level.cell).clipboards clipboard source isSource
    simp only [PlanStepOf.clipboardSeeing_eq, PlanDocument.retaggedAt, Retag.step, given, Option.map_some, isSource,
      isSource', same]

/-- A plan that is accepted matches the one with its tags changed. -/
theorem matches_retagged (keeps : ∀ cell, (retag cell).Keeps one other) (static : one.isStatic = other.isStatic)
    (accepted : level.workflow contracts = .ok workflow) :
    level.plan.Matches one other (level.retagged retag).plan := by
  induction level using PlanLevel.induction generalizing workflow with
  | level level ih =>
    have becomes := exists_workflow_iff.mp ⟨workflow, accepted⟩
    have steps : List.Forall₂ (PlanStepOf.Matches one other) level.plan.steps (level.retagged retag).plan.steps :=
      PlanDocument.forall₂_retagged (PlanDocument.matches_retaggedAt retag static level.cell)
    have isThere {place : Nat} {step step' : PlanStep} (isStep : level.plan.steps[place]? = some step)
        (isStep' : (level.retagged retag).plan.steps[place]? = some step') :
        step' = PlanDocument.retaggedAt retag level.cell place step := by
      rw [getElem?_retagged, isStep] at isStep'
      exact (Option.some.inj isStep').symm
    refine .intro (by simp [retagged]) (by simp [retagged]) steps ?_ ?_ ?_
    · have tags : PlanDocument.tagsIn other (level.retagged retag).plan.steps = _ :=
        PlanDocument.tagsIn_retagged retag static level.plan level.cell
      rw [tags, Retag.map_fst_tags, List.nodup_map_iff (keeps level.cell).injective]
    · intro place step step' isStep isStep' flat
      obtain rfl := isThere isStep isStep'
      obtain ⟨generator, becomes⟩ := becomes place step isStep
      cases becomes with
      | call _ _ made => exact clipboardSeeing_retagged keeps static made
      | plan _ holds => simp [flat] at holds
    · intro place step step' inner inner' isStep isStep' holds holds'
      obtain rfl := isThere isStep isStep'
      obtain ⟨generator, becomes⟩ := becomes place step isStep
      cases becomes with
      | call _ flat => simp [flat] at holds
      | @plan _ below _ isInner accepted =>
        obtain rfl := Option.some.inj (holds.symm.trans isInner)
        have isInner' : inner.retagged retag (place :: level.cell) = inner' := by
          simpa [PlanDocument.retaggedAt, Retag.step, holds] using holds'
        exact isInner' ▸ ih place step inner isStep holds accepted

/-- What a level reaches is reached with the tags changed. -/
theorem Reaches.retagged (static : one.isStatic = other.isStatic) (reaches : Reaches one level deep) :
    Reaches other (level.retagged retag) (deep.retagged retag) := by
  induction reaches with
  | self => exact .self
  | @within level deep place step inner isStep takesPart holds _ ih =>
    have isStep' : (level.retagged retag).plan.steps[place]? =
        some (PlanDocument.retaggedAt retag level.cell place step) := by rw [getElem?_retagged, isStep]; rfl
    rw [(PlanDocument.matches_retaggedAt retag static level.cell place step).takesPart] at takesPart
    rw [← inside_retagged] at ih
    exact .within isStep' takesPart (by simp [PlanDocument.retaggedAt, Retag.step, holds]) ih

/-- A build that succeeds keeps the tags of its plan, and none are left by one that fails. -/
theorem tags_of_build (accepted : level.workflow contracts = .ok workflow) (amount : Uint256) (mode : RunMode)
    (data : RunData) (world : World σ) :
    workflow.tags (workflow.build amount mode data world).2.cells =
      match (workflow.build amount mode data world).1 with
      | .ok _ => PlanDocument.tagsIn mode level.plan.steps
      | .error _ => [] := by
  have kept := Workflow.cell_buildFor (coherent_of_accepted accepted) ⟨mode, data⟩ amount world
  rw [Workflow.tags, Workflow.currentOrEmpty, Workflow.build_eq, kept]
  cases outcome : workflow.buildFor ⟨mode, data⟩ amount world with | mk answer after =>
  cases answer with
  | ok build =>
    obtain ⟨turns, ran⟩ := workflow.buildFor_ok outcome
    exact (kept_of_ran accepted ran).tags
  | error e => rfl

/-- With the tags changed, a plan is built exactly if it was, what is seen is the same, and so are the tags but
for the change. -/
theorem build_retagged {retagged : Workflow σ} (keeps : ∀ cell, (retag cell).Keeps one other)
    (static : one.isStatic = other.isStatic) (accepted : level.workflow contracts = .ok workflow)
    (accepted' : (level.retagged retag).workflow contracts = .ok retagged) (amount amount' : Uint256)
    (data data' : RunData) (world world' : World σ) :
    ((∃ out, (workflow.build amount one data world).1 = .ok out) ↔
      ∃ out, (retagged.build amount' other data' world').1 = .ok out) ∧
    workflow.Mirrors (workflow.build amount one data world).2.cells retagged
      (retagged.build amount' other data' world').2.cells ∧
    retagged.tags (retagged.build amount' other data' world').2.cells =
      (retag level.cell).tags (workflow.tags (workflow.build amount one data world).2.cells) := by
  have alike := matches_retagged keeps static accepted
  obtain ⟨both, mirrors⟩ :=
    mirrors_of_matches accepted accepted' rfl alike amount amount' data data' world world'
  refine ⟨both, mirrors, ?_⟩
  have changed : PlanDocument.tagsIn other (level.retagged retag).plan.steps =
      (retag level.cell).tags (PlanDocument.tagsIn one level.plan.steps) :=
    PlanDocument.tagsIn_retagged retag static level.plan level.cell
  rw [tags_of_build accepted, tags_of_build accepted', changed]
  cases here : (workflow.build amount one data world).1 with
  | ok out =>
    obtain ⟨out', there⟩ := both.mp ⟨out, here⟩
    rw [there]
  | error e =>
    cases there : (retagged.build amount' other data' world').1 with
    | ok out' => simp [here, there] at both
    | error e' => rfl

end PlanLevel

end Retagged

end CallWeave
