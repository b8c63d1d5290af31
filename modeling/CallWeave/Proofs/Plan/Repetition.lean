import CallWeave.Proofs.Plan.Refusal

/-!
# Repeated tags

A build of a plan fails exactly if it reaches a level at which two sent steps have one tag
(`PlanLevel.build_error_iff_repeats`). A level is reached through steps with nested plans that take part,
whether they are sent or local. The error names the level and the tag, and each level around it wraps the error
once.
-/

namespace CallWeave

variable {σ : Type}

/-- An error inside some steps: each of them, from the outside in, wraps it with the names of its workflow and
of itself. -/
def WorkflowError.wrapped (path : List (String × String)) (cause : WorkflowError) : WorkflowError :=
  path.foldr (fun place inside => .stepFailed place.1 place.2 inside) cause

theorem WorkflowError.rootCause_wrapped (path : List (String × String)) (cause : WorkflowError) :
    (wrapped path cause).rootCause = cause.rootCause := by
  induction path with
  | nil => rfl
  | cons place path ih => exact ih

/-! ## Repetitions -/

/-- The tags alone, in their order. -/
theorem map_fst_tagIndex (tags : List (Option String)) : (tagIndex tags).map Prod.fst = tags.filterMap id := by
  rw [tagIndex, List.map_filterMap]
  have each (placed : Option String × Nat) :
      Option.map Prod.fst (placed.1.map fun tag => (tag, placed.2)) = placed.1 := by
    cases placed.1 <;> rfl
  simp only [each]
  conv => rhs; rw [← List.zipIdx_map_fst 0 tags, List.filterMap_map]
  rfl

/-- A tag is in use when one of the sent steps has it. -/
theorem PlanDocument.mem_tagsIn {mode : RunMode} {steps : List PlanStep} {tag : String} :
    tag ∈ (tagsIn mode steps).map Prod.fst ↔ ∃ step ∈ steps, step.isSent mode = true ∧ step.tag = some tag := by
  rw [tagsIn, map_fst_tagIndex]
  simp [and_assoc]

namespace PlanLevel

/-- Two steps of a level are sent and have one tag. -/
def Repeats (mode : RunMode) (level : PlanLevel) (tag : String) : Prop :=
  ∃ (first second : Nat) (one other : PlanStep), first < second ∧
    (level.plan.steps[first]? = some one ∧ one.isSent mode = true ∧ one.tag = some tag) ∧
    level.plan.steps[second]? = some other ∧ other.isSent mode = true ∧ other.tag = some tag

/-- A build of one level reaches another through steps that take part; `path` are the workflows around the
other, from the outside in, each with the generator in it that is on the way. -/
inductive ReachesBy (mode : RunMode) : PlanLevel → List (String × String) → PlanLevel → Prop
  | self {level : PlanLevel} : ReachesBy mode level [] level
  | within {level deep : PlanLevel} {path : List (String × String)} {place : Nat} {step : PlanStep}
      {inner : PlanDocument} (isStep : level.plan.steps[place]? = some step)
      (takesPart : step.takesPart mode = true) (holds : step.workflow = some inner)
      (deeper : ReachesBy mode (level.inside place step inner) path deep) :
      ReachesBy mode level ((level.name, (level.inside place step inner).name) :: path) deep

variable {contracts : Contracts} {level deep : PlanLevel} {workflow : Workflow σ} {mode : RunMode} {tag : String}

theorem ReachesBy.reaches {path : List (String × String)} (reaches : ReachesBy mode level path deep) :
    Reaches mode level deep := by
  induction reaches with
  | self => exact .self
  | within isStep takesPart holds _ ih => exact .within isStep takesPart holds ih

/-- No tag is registered twice exactly if the level repeats none. -/
theorem nodup_tagsIn_iff :
    ((PlanDocument.tagsIn mode level.plan.steps).map Prod.fst).Nodup ↔ ∀ tag, ¬ level.Repeats mode tag := by
  rw [PlanDocument.tagsIn, map_fst_tagIndex, List.filterMap_map, List.Nodup, List.pairwise_filterMap,
    List.pairwise_filter, List.pairwise_iff_getElem]
  constructor
  · rintro apart tag ⟨first, second, one, other, isLess, ⟨isOne, sent, tagged⟩, isOther, sent', tagged'⟩
    obtain ⟨isFirst, rfl⟩ := List.getElem?_eq_some_iff.mp isOne
    obtain ⟨isSecond, rfl⟩ := List.getElem?_eq_some_iff.mp isOther
    exact apart first second isFirst isSecond isLess sent sent' tag tagged tag tagged' rfl
  · intro none first second isFirst isSecond isLess sent sent' tag tagged tag' tagged' same
    subst same
    exact none tag ⟨first, second, _, _, isLess, ⟨List.getElem?_eq_getElem isFirst, sent, tagged⟩,
      List.getElem?_eq_getElem isSecond, sent', tagged'⟩

/-- A sent step that has the tag of a sent one before it repeats that tag. -/
theorem repeats_of_again {place : Nat} {step : PlanStep} (isStep : level.plan.steps[place]? = some step)
    (isSent : step.isSent mode = true) (tagged : step.tag = some tag)
    (again : tag ∈ (PlanDocument.tagsIn mode (level.plan.steps.take place)).map Prod.fst) : level.Repeats mode tag := by
  obtain ⟨earlier, isEarlier, sent, same⟩ := PlanDocument.mem_tagsIn.mp again
  obtain ⟨first, isLess, rfl⟩ := List.mem_take_iff_getElem.mp isEarlier
  have isFirst : level.plan.steps[first]? = some level.plan.steps[first] := List.getElem?_eq_getElem _
  exact ⟨first, place, _, step, by omega, ⟨isFirst, sent, same⟩, isStep, isSent, tagged⟩

/-- A level that is refused reaches one that repeats a tag, and the error says which and on what way. -/
theorem Refuses.exists_path {e : WorkflowError} (refuses : level.Refuses mode e) :
    ∃ path deep tag, ReachesBy mode level path deep ∧ deep.Repeats mode tag ∧
      e = .wrapped path (.duplicateTag deep.name tag) := by
  induction refuses with
  | tag isStep isSent tagged again => exact ⟨[], _, _, .self, repeats_of_again isStep isSent tagged again, rfl⟩
  | inside isStep takesPart holds _ ih =>
    obtain ⟨path, deep, tag, reaches, repeats, rfl⟩ := ih
    exact ⟨_ :: path, deep, tag, .within isStep takesPart holds reaches, repeats, rfl⟩

/-- A level that is built repeats no tag, and neither does any that the build reaches. -/
theorem not_repeats_of_buildFor {purpose : Purpose} {amount : Uint256} {world after : World σ} {build : Build}
    (accepted : level.workflow contracts = .ok workflow)
    (built : workflow.buildFor purpose amount world = (.ok build, after))
    (reaches : Reaches purpose.mode level deep) : ¬ deep.Repeats purpose.mode tag := by
  obtain ⟨inside, -, kept⟩ := stands_of_buildFor accepted built deep reaches
  exact nodup_tagsIn_iff.mp (kept.tags ▸ kept.tags_nodup) tag

/-- A build of an accepted plan fails, in whatever mode and for whatever amount, exactly if it reaches a level
that repeats a tag. The error is then that of such a level and tag, wrapped once by each level around it. A plan
with more steps on a level than 80 bits can number, which fits into no memory, is not spoken of. -/
theorem build_error_iff_repeats {plan : PlanDocument} {cell : CellId}
    (accepted : plan.toWorkflow contracts cell = .ok workflow) (short : IsShort plan) (mode : RunMode)
    (amount : Uint256) (data : RunData) (world : World σ) :
    ((∃ e after, workflow.build amount mode data world = (.error e, after)) ↔
      ∃ path deep tag, ReachesBy mode (root plan cell) path deep ∧ deep.Repeats mode tag) ∧
    ∀ e after, workflow.build amount mode data world = (.error e, after) →
      ∃ path deep tag, ReachesBy mode (root plan cell) path deep ∧ deep.Repeats mode tag ∧
        e = .wrapped path (.duplicateTag deep.name tag) ∧ e.rootCause = .duplicateTag deep.name tag := by
  have accepted : (root plan cell).workflow contracts = .ok workflow := accepted
  have refused {e : WorkflowError} {after : World σ}
      (failed : workflow.build amount mode data world = (.error e, after)) :
      ∃ path deep tag, ReachesBy mode (root plan cell) path deep ∧ deep.Repeats mode tag ∧
        e = .wrapped path (.duplicateTag deep.name tag) :=
    (refuses_of_buildFor_error accepted short (Workflow.build_error failed)).exists_path
  refine ⟨⟨?_, ?_⟩, ?_⟩
  · rintro ⟨e, after, failed⟩
    obtain ⟨path, deep, tag, reaches, repeats, -⟩ := refused failed
    exact ⟨path, deep, tag, reaches, repeats⟩
  · rintro ⟨path, deep, tag, reaches, repeats⟩
    -- a build that succeeds leaves the index of each level it reaches, and no tag is twice in one
    cases outcome : workflow.build amount mode data world with | mk answer after =>
    cases answer with
    | error e => exact ⟨e, after, rfl⟩
    | ok out =>
      obtain ⟨build, -, built⟩ := Workflow.build_ok outcome
      exact absurd repeats (not_repeats_of_buildFor accepted built reaches.reaches)
  · intro e after failed
    obtain ⟨path, deep, tag, reaches, repeats, rfl⟩ := refused failed
    exact ⟨path, deep, tag, reaches, repeats, rfl, by rw [WorkflowError.rootCause_wrapped]; rfl⟩

/-- A plan with a tag twice in a plan below, whose step is local. The tag stands on the outer level as well, and
there on a step that is skipped. -/
def repeatingPlan : PlanDocument :=
  let call (name tag : String) : PlanStep :=
    ⟨name, some [1], none, some tag, false, false, false, none, none, none, none⟩
  .mk (some "route") .advancedFarm
    [call "swap" "swap", { call "again" "swap" with skip := true },
      { call "pipe" "pipe" with
        callData := none, onlyLocal := true
        workflow := some (.mk none .farm [call "claim" "swap", call "wrap" "pipe", call "send" "swap"]) }]

theorem repeatingPlan_build_error :
    ∃ (workflow : Workflow Unit) (e : WorkflowError) (after : World Unit),
      repeatingPlan.toWorkflow default [] = .ok workflow ∧ IsShort repeatingPlan ∧
      workflow.build 7 .reversed .empty (.start ()) = (.error e, after) ∧
      e.rootCause = .duplicateTag "pipe" "swap" ∧
      ∃ path deep tag, ReachesBy .reversed (root repeatingPlan []) path deep ∧ deep.Repeats .reversed tag ∧
        e = .wrapped path (.duplicateTag deep.name tag) := by
  have short : IsShort repeatingPlan := by
    show ∀ inner ∈ repeatingPlan.levels, inner.steps.length ≤ 2 ^ 80
    decide
  have accepted : repeatingPlan.toWorkflow default [] = .ok (_ : Workflow Unit) := rfl
  obtain ⟨⟨-, fails⟩, error⟩ := build_error_iff_repeats accepted short .reversed 7 .empty (.start ())
  have isStep : repeatingPlan.steps[2]? = some _ := rfl
  obtain ⟨e, after, failed⟩ := fails
    ⟨_, _, "swap", .within isStep rfl rfl .self, 0, 2, _, _, by decide, ⟨rfl, rfl, rfl⟩, rfl, rfl, rfl⟩
  obtain ⟨path, deep, tag, reaches, repeats, wrapped, -⟩ := error e after failed
  have isError : e = .stepFailed "route" "pipe" (.duplicateTag "pipe" "swap") :=
    (Except.error.inj (congrArg Prod.fst failed)).symm
  exact ⟨_, e, after, accepted, short, failed, by rw [isError]; rfl, path, deep, tag, reaches, repeats, wrapped⟩

end PlanLevel

end CallWeave
