import CallWeave.Proofs.Plan.Outbound
import CallWeave.Proofs.Plan.Success
import CallWeave.Proofs.Sharing.Reachable

/-!
# Plans with one outcome

Two plans *match*, one of them in a mode and the other in another, when their steps go along in pairs
(`PlanDocument.Matches`): of a pair both take part or neither does, the data are the same and the clipboards are
resolved alike, and the plans inside match in turn. The tags may differ, as long as both levels repeat one or
neither does.

Then both plans are built or neither is, whatever the amounts and the run data are, and the two builds differ in
the tags and the running amounts only: what is sent is the same (`PlanLevel.mirrors_of_matches`).
-/

namespace CallWeave

variable {σ : Type}

/-- Two steps have one part, the first in a mode and the second in another. Nothing is said about their tags,
their clipboards and what the plans inside are. -/
structure PlanStepOf.Matches {δ : Type} (one other : RunMode) (step step' : PlanStepOf δ) : Prop where
  name : step.name = step'.name
  callData : step.callData = step'.callData
  target : step.target = step'.target
  value : step.value = step'.value
  onlyLocal : step.onlyLocal = step'.onlyLocal
  takesPart : step.takesPart one = step'.takesPart other
  flat : step.workflow = none ↔ step'.workflow = none

theorem PlanStepOf.Matches.isSent {δ : Type} {one other : RunMode} {step step' : PlanStepOf δ}
    (alike : step.Matches one other step') : step.isSent one = step'.isSent other := by
  rw [PlanStepOf.isSent, PlanStepOf.isSent, alike.takesPart, alike.onlyLocal]

theorem PlanStepOf.Matches.symm {δ : Type} {one other : RunMode} {step step' : PlanStepOf δ}
    (alike : step.Matches one other step') : step'.Matches other one step :=
  ⟨alike.name.symm, alike.callData.symm, alike.target.symm, alike.value.symm, alike.onlyLocal.symm,
    alike.takesPart.symm, alike.flat.symm⟩

/-- Two steps that have one part are calls, or both hold plans. -/
theorem PlanStepOf.Matches.flat_or_holds {δ : Type} {one other : RunMode} {step step' : PlanStepOf δ}
    (alike : step.Matches one other step') :
    (step.workflow = none ∧ step'.workflow = none) ∨
      ∃ inner inner', step.workflow = some inner ∧ step'.workflow = some inner' := by
  have flat := alike.flat
  cases holds : step.workflow with
  | none => exact .inl ⟨rfl, flat.mp holds⟩
  | some inner =>
    cases holds' : step'.workflow with
    | none => simp [flat.mpr holds'] at holds
    | some inner' => exact .inr ⟨inner, inner', rfl, rfl⟩

namespace PlanDocument

/-- Two plans make the same of their steps, the first in a mode and the second in another. -/
inductive Matches (one other : RunMode) : PlanDocument → PlanDocument → Prop
  | intro {plan plan' : PlanDocument} (name : plan.workflow = plan'.workflow) (kind : plan.kind = plan'.kind)
      (steps : List.Forall₂ (PlanStepOf.Matches one other) plan.steps plan'.steps)
      (apart : ((tagsIn one plan.steps).map Prod.fst).Nodup ↔ ((tagsIn other plan'.steps).map Prod.fst).Nodup)
      (clipboards : ∀ (place : Nat) (step step' : PlanStep), plan.steps[place]? = some step →
        plan'.steps[place]? = some step' → step.workflow = none →
        step.clipboardSeeing (tagsSeen one (plan.steps.take place)) =
          step'.clipboardSeeing (tagsSeen other (plan'.steps.take place)))
      (inside : ∀ (place : Nat) (step step' : PlanStep) (inner inner' : PlanDocument),
        plan.steps[place]? = some step → plan'.steps[place]? = some step' → step.workflow = some inner →
        step'.workflow = some inner' → Matches one other inner inner') :
      Matches one other plan plan'

variable {one other : RunMode} {plan plan' : PlanDocument}

/-- The pairs of steps, with what is known about the plans inside. -/
theorem forall₂_inside {P : PlanDocument → PlanDocument → Prop}
    (steps : List.Forall₂ (PlanStepOf.Matches one other) plan.steps plan'.steps)
    (inside : ∀ (place : Nat) (step step' : PlanStep) (inner inner' : PlanDocument),
      plan.steps[place]? = some step → plan'.steps[place]? = some step' → step.workflow = some inner →
      step'.workflow = some inner' → P inner inner') :
    List.Forall₂ (fun step step' => step.Matches one other step' ∧
      ∀ inner inner', step.workflow = some inner → step'.workflow = some inner' → P inner inner')
      plan.steps plan'.steps := by
  rw [List.forall₂_iff_get] at steps ⊢
  obtain ⟨sameLength, steps⟩ := steps
  refine ⟨sameLength, fun place isLess isLess' => ⟨steps place isLess isLess', fun inner inner' holds holds' => ?_⟩⟩
  exact inside place _ _ inner inner' (List.getElem?_eq_getElem isLess) (List.getElem?_eq_getElem isLess') holds holds'

namespace Matches

theorem workflow_eq (alike : plan.Matches one other plan') : plan.workflow = plan'.workflow := by
  cases alike with
  | intro name => exact name

theorem symm (alike : plan.Matches one other plan') : plan'.Matches other one plan := by
  induction alike with
  | intro name kind steps apart clipboards _ ih =>
    refine .intro name.symm kind.symm (steps.flip.imp fun _ _ alike => alike.symm) apart.symm ?_ ?_
    · intro place step' step isStep' isStep flat'
      obtain ⟨_, isThere, alike⟩ := exists_of_forall₂ steps isStep
      obtain rfl := Option.some.inj (isStep'.symm.trans isThere)
      exact (clipboards place step step' isStep isStep' (alike.flat.mpr flat')).symm
    · intro place step' step inner' inner isStep' isStep holds' holds
      exact ih place step step' inner inner' isStep isStep' holds holds'

/-- Plans that match have one value. -/
theorem valueIn_eq (alike : plan.Matches one other plan') : plan.valueIn one = plan'.valueIn other := by
  induction alike with
  | @intro plan plan' _ _ steps _ _ _ ih =>
    rw [PlanDocument.valueIn_eq, PlanDocument.valueIn_eq]
    have pairs := forall₂_inside steps ih
    generalize plan.steps = steps, plan'.steps = steps' at pairs
    induction pairs with
    | nil => rw [valuesIn, valuesIn]
    | @cons step step' _ _ related _ values =>
      obtain ⟨alike, inside⟩ := related
      have value : valueOf one step.workflow step.value = valueOf other step'.workflow step'.value := by
        rcases alike.flat_or_holds with ⟨flat, flat'⟩ | ⟨inner, inner', holds, holds'⟩
        · rw [flat, flat', valueOf, valueOf, alike.value]
        · rw [holds, holds', valueOf, valueOf, inside inner inner' holds holds']
      rw [valuesIn, valuesIn, alike.takesPart, value, values]

/-- A plan can be built when it matches one that can. -/
theorem builds (alike : plan.Matches one other plan') (builds : plan.Builds one) : plan'.Builds other := by
  induction alike with
  | intro _ _ steps apart clipboards _ ih =>
    obtain ⟨isApart, calls, plans⟩ := builds
    refine .intro (apart.mp isApart) ?_ ?_
    · intro place step' isStep' takesPart flat
      obtain ⟨step, isStep, alike⟩ := exists_of_forall₂ steps.flip isStep'
      rw [← alike.takesPart] at takesPart
      rw [← alike.flat] at flat
      rw [← clipboards place step step' isStep isStep' flat]
      exact calls place step isStep takesPart flat
    · intro step' isIn takesPart inner' holds'
      obtain ⟨place, isStep'⟩ := List.mem_iff_getElem?.mp isIn
      obtain ⟨step, isStep, alike⟩ := exists_of_forall₂ steps.flip isStep'
      rw [← alike.takesPart] at takesPart
      rcases alike.flat_or_holds with ⟨-, flat'⟩ | ⟨inner, _, holds, -⟩
      · simp [flat'] at holds'
      · exact ih place step step' inner inner' isStep isStep' holds holds'
          (plans step (List.mem_of_getElem? isStep) takesPart inner holds)

/-- The steps that are sent of plans that match go along with each other. -/
theorem filter_isSent (alike : plan.Matches one other plan') :
    List.Forall₂ (PlanStepOf.Matches one other) (plan.steps.filter (·.isSent one))
      (plan'.steps.filter (·.isSent other)) := by
  obtain ⟨-, -, steps, -, -, -⟩ := alike
  refine List.rel_filter ?_ steps
  intro step step' alike
  simp only [alike.isSent]

theorem isEmpty_filter_isSent (alike : plan.Matches one other plan') :
    (plan.steps.filter (·.isSent one)).isEmpty = (plan'.steps.filter (·.isSent other)).isEmpty := by
  rw [Bool.eq_iff_iff, List.isEmpty_iff_length_eq_zero, List.isEmpty_iff_length_eq_zero,
    alike.filter_isSent.length_eq]

theorem length_sent_eq (alike : plan.Matches one other plan') :
    (plan.sent one).length = (plan'.sent other).length := by
  rw [← List.length_map Prod.fst, map_sent, ← List.length_map Prod.fst, map_sent, alike.filter_isSent.length_eq]

/-- Two plans that match have one outbound call, when they have the same calls. -/
theorem outboundIn_of_callsIn (alike : plan.Matches one other plan') {contracts : Contracts}
    (calls : callsIn contracts one plan.steps [] = callsIn contracts other plan'.steps []) (name : String) :
    plan.outboundIn contracts one name = plan'.outboundIn contracts other name := by
  have value := alike.valueIn_eq
  have isEmpty := alike.isEmpty_filter_isSent
  obtain ⟨-, sameKind, -, -, -, -⟩ := alike
  obtain ⟨_, kind, steps⟩ := plan
  obtain ⟨_, kind', steps'⟩ := plan'
  obtain rfl : kind = kind' := sameKind
  simp only [PlanDocument.steps] at calls isEmpty
  rw [valueIn, valueIn] at value
  simp only [outboundIn, isEmpty, calls, value]

/-- Pairs of steps that stand behind as many others have the same calls. -/
theorem callsIn_of_pairs {contracts : Contracts}
    (clipboards : ∀ (place : Nat) (step step' : PlanStep), plan.steps[place]? = some step →
      plan'.steps[place]? = some step' → step.workflow = none →
      step.clipboardSeeing (tagsSeen one (plan.steps.take place)) =
        step'.clipboardSeeing (tagsSeen other (plan'.steps.take place)))
    {before before' rest rest' : List PlanStep} (isPlan : plan.steps = before ++ rest)
    (isPlan' : plan'.steps = before' ++ rest') (sameLength : before.length = before'.length)
    (pairs : List.Forall₂ (fun step step' => step.Matches one other step' ∧
      ∀ inner inner', step.workflow = some inner → step'.workflow = some inner' →
        inner.workflow = inner'.workflow ∧
          ∀ name, inner.outboundIn contracts one name = inner'.outboundIn contracts other name) rest rest') :
    callsIn contracts one rest before = callsIn contracts other rest' before' := by
  -- the steps in front are kept along, for the tags that the next pair sees are theirs
  induction pairs generalizing before before' with
  | nil => rw [callsIn, callsIn]
  | @cons step step' rest rest' related _ ih =>
    obtain ⟨alike, inside⟩ := related
    have isStep : plan.steps[before.length]? = some step := by simp [isPlan]
    have isStep' : plan'.steps[before.length]? = some step' := by simp [isPlan', sameLength]
    have call : callIn contracts one step.workflow step (tagsSeen one before) =
        callIn contracts other step'.workflow step' (tagsSeen other before') := by
      rcases alike.flat_or_holds with ⟨flat, flat'⟩ | ⟨inner, inner', holds, holds'⟩
      · have clipboard := clipboards _ step step' isStep isStep' flat
        rw [isPlan, List.take_left, isPlan', sameLength, List.take_left] at clipboard
        rw [flat, flat', callIn, callIn, clipboard, alike.name, alike.target, alike.callData]
      · obtain ⟨name, call⟩ := inside inner inner' holds holds'
        rw [holds, holds', callIn, callIn, name, alike.name, call]
    have behind : callsIn contracts one rest (before ++ [step]) = callsIn contracts other rest' (before' ++ [step']) :=
      ih (by simp [isPlan]) (by simp [isPlan']) (by simp [sameLength])
    rw [callsIn, callsIn, alike.isSent, call, behind]

/-- Plans that match have the same calls. -/
theorem callsIn_eq (alike : plan.Matches one other plan') (contracts : Contracts) :
    callsIn contracts one plan.steps [] = callsIn contracts other plan'.steps [] := by
  induction alike with
  | intro _ _ steps _ clipboards inside ih =>
    refine callsIn_of_pairs clipboards rfl rfl rfl (forall₂_inside steps ?_)
    intro place step step' inner inner' isStep isStep' holds holds'
    have alike := inside place step step' inner inner' isStep isStep' holds holds'
    exact ⟨alike.workflow_eq, alike.outboundIn_of_callsIn (ih place step step' inner inner' isStep isStep' holds holds')⟩

/-- Plans that match have one outbound call. -/
theorem outboundIn_eq (alike : plan.Matches one other plan') (contracts : Contracts) (name : String) :
    plan.outboundIn contracts one name = plan'.outboundIn contracts other name :=
  alike.outboundIn_of_callsIn (alike.callsIn_eq contracts) name

end Matches

/-! ## Modes that treat a plan alike -/

/-- Two modes walk in one direction, and leave out the same steps of a plan and of the plans in it. -/
structure SameIn (one other : RunMode) (plan : PlanDocument) : Prop where
  direction : one.isReversed = other.isReversed
  takesPart : ∀ inner ∈ plan.levels, ∀ step ∈ inner.steps, step.takesPart one = step.takesPart other

theorem SameIn.inside (same : plan.SameIn one other) {step : PlanStep} {inner : PlanDocument}
    (isStep : step ∈ plan.steps) (holds : step.workflow = some inner) : inner.SameIn one other :=
  ⟨same.direction, fun deep isDeep => same.takesPart deep (levels_subset isStep holds isDeep)⟩

theorem SameIn.takesPart_eq (same : plan.SameIn one other) {step : PlanStep} (isStep : step ∈ plan.steps) :
    step.takesPart one = step.takesPart other := same.takesPart plan plan.self_mem_levels step isStep

/-- A plan matches itself in two modes that treat it alike. -/
theorem SameIn.matches (same : plan.SameIn one other) : plan.Matches one other plan := by
  induction plan using PlanDocument.induction with
  | level plan ih =>
    have steps : ∀ step ∈ plan.steps, step.Matches one other step := fun step isStep =>
      ⟨rfl, rfl, rfl, rfl, rfl, same.takesPart_eq isStep, Iff.rfl⟩
    have tags {steps' : List PlanStep} (isSub : steps' ⊆ plan.steps) : tagsIn one steps' = tagsIn other steps' := by
      rw [tagsIn, tagsIn, List.filter_congr fun step isStep => (steps step (isSub isStep)).isSent]
    refine .intro rfl rfl (List.forall₂_same.mpr steps) ?_ ?_ ?_
    · rw [tags (List.Subset.refl _)]
    · intro place step step' isStep isStep' _
      obtain rfl := Option.some.inj (isStep.symm.trans isStep')
      rw [tagsSeen, tagsSeen, same.direction, tags (List.take_subset _ _)]
    · intro place step step' inner inner' isStep isStep' holds holds'
      obtain rfl := Option.some.inj (isStep.symm.trans isStep')
      obtain rfl := Option.some.inj (holds.symm.trans holds')
      have isIn := List.mem_of_getElem? isStep
      exact ih step isIn inner holds (same.inside isIn holds)

/-! ## The names of what is built -/

/-- The name of what a step makes. A plan may have one of its own. -/
def madeName (step : PlanStep) : String := step.workflow.elim step.name fun inner => inner.workflow.getD step.name

/-- The names of what is built of a plan, in its order. -/
def namesIn (mode : RunMode) (plan : PlanDocument) : List String :=
  (plan.steps.filter (·.takesPart mode)).map madeName

theorem Matches.namesIn_eq (alike : plan.Matches one other plan') : plan.namesIn one = plan'.namesIn other := by
  cases alike with
  | intro _ _ steps _ _ inside =>
    have pairs := forall₂_inside steps fun place step step' inner inner' isStep isStep' holds holds' =>
      (inside place step step' inner inner' isStep isStep' holds holds').workflow_eq
    rw [namesIn, namesIn]
    generalize plan.steps = steps, plan'.steps = steps' at pairs
    induction pairs with
    | nil => rfl
    | @cons step step' _ _ related _ names =>
      obtain ⟨alike, inside⟩ := related
      have name : madeName step = madeName step' := by
        rcases alike.flat_or_holds with ⟨flat, flat'⟩ | ⟨inner, inner', holds, holds'⟩
        · simp only [madeName, flat, flat', Option.elim_none, alike.name]
        · simp only [madeName, holds, holds', Option.elim_some, alike.name, inside inner inner' holds holds']
      rw [List.filter_cons, List.filter_cons, alike.takesPart]
      by_cases takesPart : step'.takesPart other = true
      · rw [if_pos takesPart, if_pos takesPart, List.map_cons, List.map_cons, name, names]
      · rw [if_neg takesPart, if_neg takesPart, names]

end PlanDocument

namespace PlanLevel

variable {contracts : Contracts} {level : PlanLevel} {workflow : Workflow σ} {purpose : Purpose} {amount : Uint256}
  {world after : World σ} {build : Build}

/-- What a step makes has the name of the step or of the plan in it. -/
theorem Makes.name_eq {mode : RunMode} {placed : PlanStep × Nat} {built : BuiltStep}
    (makes : level.Makes mode placed built) : built.name = PlanDocument.madeName placed.1 := by
  cases makes with
  | call _ flat =>
    rw [PlanDocument.madeName, flat]
    rfl
  | plan _ holds =>
    rw [PlanDocument.madeName, holds]
    rfl

/-- Turns of some steps make what has the names of the steps that take part. -/
theorem names_of_turns {mode : RunMode} {placed : List (PlanStep × Nat)} {turns : List (Turn σ)}
    (turnsOf : List.Forall₂ (level.TurnOf mode) placed turns) :
    (recordsOf turns).map (·.1.name) =
      ((placed.map Prod.fst).filter (·.takesPart mode)).map PlanDocument.madeName := by
  induction turnsOf with
  | nil => rfl
  | @cons placed turn _ _ turnOf _ ih =>
    rw [recordsOf_cons, List.map_append, ih, List.map_cons, List.filter_cons]
    cases takesPart : placed.1.takesPart mode with
    | false =>
      rw [Turn.record?, turnOf.leftOut takesPart]
      rfl
    | true =>
      obtain ⟨built, made, makes⟩ := turnOf.made takesPart
      rw [Turn.record?, made, if_pos rfl, List.map_cons, ← makes.name_eq]
      rfl

/-- What is built of a plan has the names that the plan gives. -/
theorem names_of_buildFor (accepted : level.workflow contracts = .ok workflow)
    (built : workflow.buildFor purpose amount world = (.ok build, after)) :
    build.steps.map BuiltStep.name = level.plan.namesIn purpose.mode := by
  obtain ⟨turns, ran⟩ := workflow.buildFor_ok built
  have names := names_of_turns (turnsOf accepted ran)
  rw [List.zipIdx_map_fst] at names
  rw [ran.holds.steps, List.map_map]
  exact names

end PlanLevel

/-! ## Two builds -/

/-- What is observed of one workflow is observed of another as well, but for the tags and the running amounts. -/
structure Workflow.Mirrors (workflow : Workflow σ) (cells : Cells) (other : Workflow σ) (cells' : Cells) : Prop where
  isBuilt : other.isBuilt cells' = workflow.isBuilt cells
  length : other.length cells' = workflow.length cells
  value : other.value cells' = workflow.value cells
  /-- The names of all built steps. -/
  names : (other.summary cells').map Prod.fst = (workflow.summary cells).map Prod.fst
  preparedCalls : other.preparedCalls cells' = workflow.preparedCalls cells
  finalize : other.finalize cells' = workflow.finalize cells

/-- Two workflows of one name show the same when neither is built. -/
theorem Workflow.mirrors_of_unbuilt {workflow other : Workflow σ} {cells cells' : Cells}
    (name : workflow.name = other.name) (unbuilt : cells workflow.cell = none) (unbuilt' : cells' other.cell = none) :
    workflow.Mirrors cells other cells' := by
  have here := seenUnbuilt_of_none unbuilt
  have there := seenUnbuilt_of_none unbuilt'
  constructor
  case isBuilt => rw [there.isBuilt, here.isBuilt]
  case length => rw [there.length, here.length]
  case value => rw [there.value, here.value]
  case names => rw [there.summary, here.summary]
  case preparedCalls => rw [there.preparedCalls, here.preparedCalls, name]
  case finalize => rw [there.finalize, here.finalize, name]

namespace PlanLevel

section Mirrors

variable {contracts : Contracts} {level level' : PlanLevel} {workflow workflow' : Workflow σ} {one other : Purpose}

/-- Two builds of plans that match show the same but for the tags and the running amounts. -/
theorem mirrors_of_builds (accepted : level.workflow contracts = .ok workflow)
    (accepted' : level'.workflow contracts = .ok workflow') (name : level.name = level'.name)
    (alike : level.plan.Matches one.mode other.mode level'.plan) {amount amount' : Uint256}
    {world world' after after' : World σ} {build build' : Build}
    (built : workflow.buildFor one amount world = (.ok build, after))
    (built' : workflow'.buildFor other amount' world' = (.ok build', after')) :
    workflow.Mirrors after.cells workflow' after'.cells := by
  obtain ⟨turns, ran⟩ := workflow.buildFor_ok built
  obtain ⟨turns', ran'⟩ := workflow'.buildFor_ok built'
  have kept := kept_of_ran accepted ran
  have kept' := kept_of_ran accepted' ran'
  have stands := stands_of_buildFor accepted built
  have stands' := stands_of_buildFor accepted' built'
  constructor
  case isBuilt => rw [Workflow.isBuilt, Workflow.isBuilt, ran.kept, ran'.kept]; rfl
  case length =>
    rw [Workflow.length, Workflow.length, ran.currentOrEmpty, ran'.currentOrEmpty, kept.length, kept'.length,
      alike.length_sent_eq]
  case value =>
    rw [Workflow.value, Workflow.value, ran.currentOrEmpty, ran'.currentOrEmpty, kept.value, kept'.value,
      alike.valueIn_eq]
  case names =>
    have names := (names_of_buildFor accepted built).trans alike.namesIn_eq
    rw [Workflow.summary, Workflow.summary, ran.currentOrEmpty, ran'.currentOrEmpty, List.map_map, List.map_map]
    exact (names_of_buildFor accepted' built').trans names.symm
  case preparedCalls =>
    have isEmpty : (level.plan.steps.filter (·.isSent one.mode)).isEmpty =
        (level'.plan.steps.filter (·.isSent other.mode)).isEmpty := alike.isEmpty_filter_isSent
    rw [preparedCalls_eq_callsIn accepted stands, preparedCalls_eq_callsIn accepted' stands', name, isEmpty,
      alike.callsIn_eq]
  case finalize =>
    rw [finalize_eq_outboundIn accepted stands, finalize_eq_outboundIn accepted' stands', name, alike.outboundIn_eq]

/-- Of two plans that match, both are built or neither is, and what is seen afterwards is the same but for the tags
and the running amounts. -/
theorem mirrors_of_matches {mode mode' : RunMode} (accepted : level.workflow contracts = .ok workflow)
    (accepted' : level'.workflow contracts = .ok workflow') (name : level.name = level'.name)
    (alike : level.plan.Matches mode mode' level'.plan) (amount amount' : Uint256) (data data' : RunData)
    (world world' : World σ) :
    ((∃ out, (workflow.build amount mode data world).1 = .ok out) ↔
      ∃ out, (workflow'.build amount' mode' data' world').1 = .ok out) ∧
    workflow.Mirrors (workflow.build amount mode data world).2.cells workflow'
      (workflow'.build amount' mode' data' world').2.cells := by
  have both : (∃ build, (workflow.buildFor ⟨mode, data⟩ amount world).1 = .ok build) ↔
      ∃ build', (workflow'.buildFor ⟨mode', data'⟩ amount' world').1 = .ok build' := by
    rw [buildFor_ok_iff accepted, buildFor_ok_iff accepted']
    exact ⟨alike.builds, alike.symm.builds⟩
  have kept := Workflow.cell_buildFor (coherent_of_accepted accepted) ⟨mode, data⟩ amount world
  have kept' := Workflow.cell_buildFor (coherent_of_accepted accepted') ⟨mode', data'⟩ amount' world'
  rw [Workflow.exists_build_ok_iff, Workflow.exists_build_ok_iff, Workflow.build_eq, Workflow.build_eq]
  refine ⟨both, ?_⟩
  cases here : workflow.buildFor ⟨mode, data⟩ amount world with | mk outcome after =>
  cases there : workflow'.buildFor ⟨mode', data'⟩ amount' world' with | mk outcome' after' =>
  simp only [here, there] at both kept kept' ⊢
  cases outcome with
  | ok build =>
    obtain ⟨build', rfl⟩ := both.mp ⟨build, rfl⟩
    exact mirrors_of_builds accepted accepted' name alike here there
  | error e =>
    cases outcome' with
    | ok build' => simp at both
    | error e' =>
      have sameName : workflow.name = workflow'.name := by
        rw [(describes accepted).name, (describes accepted').name, name]
      exact Workflow.mirrors_of_unbuilt sameName kept kept'

end Mirrors

end PlanLevel

end CallWeave
