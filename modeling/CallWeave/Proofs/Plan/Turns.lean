import CallWeave.Proofs.Plan.Levels
import CallWeave.Proofs.Sharing.Nested

/-!
# Builds of plans

What a build of a plan holds can be said from the plan and the mode alone. A step takes part unless it is
skipped or left to the modes that need the full transaction; it is sent unless it is local as well. The calls
are those of the sent steps (`PlanLevel.Makes`), each with the clipboard that it resolves to when it sees the
tags of the sent steps before it, and the value is the sum over all that take part (`PlanDocument.valueIn`).

A build that succeeds leaves such a build at every level that it reaches (`PlanLevel.stands_of_buildFor`): the
turns of one level do not touch the cells of another.
-/

namespace CallWeave

variable {σ : Type}

/-! ## Taking part -/

/-- Whether a step is built in a mode. -/
def PlanStepOf.takesPart {δ : Type} (mode : RunMode) (step : PlanStepOf δ) : Bool :=
  !(step.onlyExecute && !mode.isStatic) && !step.skip

/-- Whether a step adds a call in a mode. -/
def PlanStepOf.isSent {δ : Type} (mode : RunMode) (step : PlanStepOf δ) : Bool :=
  step.takesPart mode && !step.onlyLocal

theorem PlanStepOf.takesPart_of_isSent {δ : Type} {mode : RunMode} {step : PlanStepOf δ}
    (sent : step.isSent mode = true) : step.takesPart mode = true :=
  (Bool.and_eq_true_iff.mp sent).1

/-- When the turn of a step comes, neither the amount nor anything but the mode decides whether it is left
out. -/
theorem PlanStepOf.leavesOut_options {δ : Type} (step : PlanStepOf δ) (amount : Uint256) (context : RunContext) :
    step.options.leavesOut amount context = !step.takesPart context.mode := by
  cases skipped : step.skip <;>
    simp [StepOptions.leavesOut, StepOptions.isDropped, options, takesPart, SkipRule.ofBool, SkipRule.applies, skipped]

namespace PlanDocument

mutual

/-- The value of a plan in a mode, modulo `2 ^ 256`: that of all steps that take part. -/
def valueIn (mode : RunMode) : PlanDocument → Uint256
  | .mk _ _ steps => valuesIn mode steps

/-- The value of some steps. -/
def valuesIn (mode : RunMode) : List PlanStep → Uint256
  | [] => 0
  | step :: rest => (if step.takesPart mode then valueOf mode step.workflow step.value else 0) + valuesIn mode rest

/-- The value of a step that takes part: its own, or that of the plan it holds. -/
def valueOf (mode : RunMode) : Option PlanDocument → Option Uint256 → Uint256
  | none, value => value.getD 0
  | some plan, _ => plan.valueIn mode

end

/-- The steps that are sent, with their places in the plan. -/
def sent (mode : RunMode) (plan : PlanDocument) : List (PlanStep × Nat) :=
  plan.steps.zipIdx.filter fun placed => placed.1.isSent mode

theorem mem_sent {mode : RunMode} {plan : PlanDocument} {step : PlanStep} {place : Nat} :
    (step, place) ∈ plan.sent mode ↔ plan.steps[place]? = some step ∧ step.isSent mode = true := by
  rw [sent, List.mem_filter, List.mem_zipIdx_iff_getElem?]

theorem map_sent (mode : RunMode) (plan : PlanDocument) :
    (plan.sent mode).map Prod.fst = plan.steps.filter (·.isSent mode) := by
  conv => rhs; rw [← List.zipIdx_map_fst 0 plan.steps, List.filter_map]
  rfl

theorem valueIn_eq (mode : RunMode) (plan : PlanDocument) : plan.valueIn mode = valuesIn mode plan.steps := by
  obtain ⟨workflow, kind, inside⟩ := plan
  rw [valueIn, steps]

end PlanDocument

/-! ## Tags -/

/-- The given tags, each with the position where it was given. -/
def tagIndex (tags : List (Option String)) : TagIndex :=
  tags.zipIdx.filterMap fun (tag, position) => tag.map (·, position)

/-- The tags of a build are those given to its calls. -/
theorem tagsOf_eq_tagIndex (records : List Recorded) :
    tagsOf records = tagIndex ((callsOf records).map fun record => record.2.tag) := by
  rw [tagIndex, List.zipIdx_map, List.filterMap_map]
  rfl

/-- A tag has a position exactly if it was given there. -/
theorem mem_tagIndex {tags : List (Option String)} {tag : String} {position : Nat} :
    (tag, position) ∈ tagIndex tags ↔ tags[position]? = some (some tag) := by
  simp only [tagIndex, List.mem_filterMap, Prod.exists, List.mem_zipIdx_iff_getElem?, Option.map_eq_some_iff,
    Prod.mk.injEq]
  constructor
  · rintro ⟨given, place, found, t, rfl, rfl, rfl⟩
    exact found
  · intro found
    exact ⟨some tag, position, found, tag, rfl, rfl, rfl⟩

/-- The tags of some steps of a plan: those of the sent ones. -/
def PlanDocument.tagsIn (mode : RunMode) (steps : List PlanStep) : TagIndex :=
  tagIndex ((steps.filter (·.isSent mode)).map (·.tag))

/-- The tags that a step sees behind some others: none when the build goes backward. -/
def PlanDocument.tagsSeen (mode : RunMode) (before : List PlanStep) : TagIndex :=
  if mode.isReversed then [] else tagsIn mode before

/-! ## Raw calls -/

/-- A context of which only the tags are known. -/
def RunContext.ofTags (tags : TagIndex) : RunContext := ⟨.forward, .empty, [], 0, "", tags⟩

/-- A clipboard is resolved by the tags alone. -/
theorem ClipboardSource.resolve_eq_ofTags (source : ClipboardSource) (context : RunContext) :
    source.resolve context = source.resolve (.ofTags context.tags) := by
  cases source <;> rfl

/-- The clipboard of a step when it sees some tags: none, one that pastes a word of what the call under a
tag returns, or the one that stands in the plan. A tag that is not seen, or no word to copy, leaves the
call as it was written. -/
def PlanStepOf.clipboardSeeing {δ : Type} (step : PlanStepOf δ) (tags : TagIndex) :
    Except WorkflowError (Option Bytes) :=
  match step.clipboard with
  | none => .ok none
  | some (.fromTag tag copySlot pasteSlot) =>
    match tags.lookup tag, copySlot with
    | some index, some copy =>
      match Clipboard.encodeSlot (.ofNat 128 index) (.ofNat 128 copy.toNat) (.ofNat 128 pasteSlot.toNat) 0 with
      | .ok bytes => .ok (some bytes)
      | .error e => .error (.clipboard e)
    | _, _ => .ok (some Clipboard.empty.toBytes)
  | some (.literal instructions value) =>
    match PasteParams.ofJson instructions with
    | .error e => .error (.clipboard e)
    | .ok params =>
      match Clipboard.encode params (value.getD 0) with
      | .ok bytes => .ok (some bytes)
      | .error e => .error (.clipboard e)

/-- It is what the source of the clipboard resolves to. -/
theorem PlanStepOf.clipboardSeeing_eq {δ : Type} (step : PlanStepOf δ) (tags : TagIndex) :
    step.clipboardSeeing tags =
      match step.clipboard with
      | none => .ok none
      | some clipboard =>
        match clipboard.source with
        | .error e => .error (.clipboard e)
        | .ok source => source.resolve (.ofTags tags) := by
  rw [clipboardSeeing]
  cases step.clipboard with
  | none => rfl
  | some clipboard =>
    cases clipboard with
    | fromTag tag copySlot pasteSlot =>
      simp only [PlanClipboard.source, ClipboardSource.resolve, RunContext.pasteFrom, RunContext.ofTags]
      cases tags.lookup tag <;> cases copySlot <;> rfl
    | literal instructions value =>
      simp only [PlanClipboard.source]
      cases PasteParams.ofJson instructions with
      | error e => rfl
      | ok params =>
        dsimp only
        cases Clipboard.encode params (value.getD 0) <;> rfl

/-- A raw call has the fields of its step. -/
theorem PlanStepOf.rawCall_ok {δ : Type} {step : PlanStepOf δ} {callData : Bytes} {raw : RawCall}
    (made : step.rawCall callData = .ok raw) :
    raw.name = step.name ∧ raw.target = step.target ∧ raw.payload = callData ∧ raw.amountOut = step.amountOut ∧
      raw.value = step.value ∧ ∀ context, raw.clipboard.resolve context = step.clipboardSeeing context.tags := by
  simp only [rawCall] at made
  split at made
  case h_1 bare =>
    obtain rfl := Except.ok.inj made
    refine ⟨rfl, rfl, rfl, rfl, rfl, fun context => ?_⟩
    simp only [clipboardSeeing_eq, bare, ClipboardSource.resolve]
  case h_2 clipboard given =>
    split at made
    · cases made
    case h_2 source sourced =>
      obtain rfl := Except.ok.inj made
      refine ⟨rfl, rfl, rfl, rfl, rfl, fun context => ?_⟩
      simp only [clipboardSeeing_eq, given, sourced]
      exact source.resolve_eq_ofTags context

/-- The step of a raw call, when it runs. -/
theorem PlanStepOf.run_rawCall {δ : Type} {step : PlanStepOf δ} {callData : Bytes} {raw : RawCall}
    (made : step.rawCall callData = .ok raw) (purpose : Purpose) (amount : Uint256) (context : RunContext)
    (world : World σ) :
    raw.generator.run purpose amount context world =
      ((step.clipboardSeeing context.tags).map fun clipboard =>
        .own ⟨step.name, step.amountOut.getD amount, step.value, .ok ⟨step.target, callData, clipboard⟩, none, none⟩,
        world) := by
  obtain ⟨name, target, payload, amountOut, value, clipboard⟩ := step.rawCall_ok made
  simp only [RawCall.generator, Generator.pure, Generator.run, RawCall.step, clipboard, name, target, payload,
    amountOut, value]
  cases step.clipboardSeeing context.tags <;> rfl

/-- A raw call that runs makes the step with its fields. -/
theorem PlanStepOf.run_rawCall_ok {δ : Type} {step : PlanStepOf δ} {callData : Bytes} {raw : RawCall}
    (made : step.rawCall callData = .ok raw) {purpose : Purpose} {amount : Uint256} {context : RunContext}
    {world after : World σ} {built : BuiltStep}
    (ran : raw.generator.run purpose amount context world = (.ok built, after)) :
    ∃ clipboard, step.clipboardSeeing context.tags = .ok clipboard ∧
      built = .own ⟨step.name, step.amountOut.getD amount, step.value, .ok ⟨step.target, callData, clipboard⟩, none,
        none⟩ := by
  rw [step.run_rawCall made] at ran
  cases resolved : step.clipboardSeeing context.tags with
  | error e => simp [resolved, Except.map] at ran
  | ok clipboard =>
    simp only [resolved, Except.map, Prod.mk.injEq, Except.ok.injEq] at ran
    exact ⟨clipboard, rfl, ran.1.symm⟩

namespace PlanLevel

variable {contracts : Contracts} {level : PlanLevel} {workflow : Workflow σ} {purpose : Purpose}

/-! ## Turns -/

/-- What a step of a level makes when it takes part: a raw call with all its fields, or the step of the
workflow below. -/
inductive Makes (mode : RunMode) (level : PlanLevel) (placed : PlanStep × Nat) : BuiltStep → Prop
  | call {callData : Bytes} {amountOut : Uint256} {clipboard : Option Bytes}
      (data : placed.1.callData = some callData) (flat : placed.1.workflow = none)
      (given : ∀ fixed ∈ placed.1.amountOut, amountOut = fixed)
      (resolved : placed.1.clipboardSeeing (PlanDocument.tagsSeen mode (level.plan.steps.take placed.2)) =
        .ok clipboard) :
      Makes mode level placed (.own ⟨placed.1.name, amountOut, placed.1.value,
        .ok ⟨placed.1.target, callData, clipboard⟩, none, none⟩)
  | plan {inner : PlanDocument} {amountOut : Uint256} (noData : placed.1.callData = none)
      (holds : placed.1.workflow = some inner) :
      Makes mode level placed (.nested (placed.2 :: level.cell) (inner.workflow.getD placed.1.name) amountOut
        (inner.valueIn mode))

/-- The turn of a step: it makes its step exactly if it takes part. -/
structure TurnOf (mode : RunMode) (level : PlanLevel) (placed : PlanStep × Nat) (turn : Turn σ) : Prop where
  emits : turn.emits = placed.1.isSent mode
  made : placed.1.takesPart mode = true → ∃ built, turn.step? = some built ∧ level.Makes mode placed built
  leftOut : placed.1.takesPart mode = false → turn.step? = none

/-- What a step makes has the value of the step. -/
theorem Makes.value {mode : RunMode} {placed : PlanStep × Nat} {built : BuiltStep}
    (makes : level.Makes mode placed built) :
    built.value.getD 0 = PlanDocument.valueOf mode placed.1.workflow placed.1.value := by
  cases makes with
  | call _ flat => rw [flat, PlanDocument.valueOf, BuiltStep.value]
  | plan _ holds => rw [holds, PlanDocument.valueOf, BuiltStep.value, Option.getD_some]

/-- Every build of a level has the value of its plan. -/
def HasValue (σ : Type) (contracts : Contracts) (purpose : Purpose) (level : PlanLevel) : Prop :=
  ∀ (workflow : Workflow σ) (amount : Uint256) (world : World σ) (build : Build) (after : World σ),
    level.workflow contracts = .ok workflow → workflow.buildFor purpose amount world = (.ok build, after) →
    build.value = level.plan.valueIn purpose.mode

/-- A turn is left out exactly if its step takes no part. -/
theorem EntryOf.isLeftOut_eq {placed : PlanStep × Nat} {turn : Turn σ}
    (entryOf : level.EntryOf contracts placed turn.entry) (mode : turn.context.mode = purpose.mode) :
    turn.isLeftOut = !placed.1.takesPart purpose.mode := by
  rw [Turn.isLeftOut, entryOf.1, PlanStepOf.leavesOut_options, mode]

/-- A turn is that of its step, when it is taken behind the turns of the steps before. -/
theorem turnOf_of_taken {placed : PlanStep × Nat} {turn : Turn σ} (taken : turn.Taken purpose)
    (entryOf : level.EntryOf contracts placed turn.entry) (mode : turn.context.mode = purpose.mode)
    (tags : turn.context.tags = PlanDocument.tagsSeen purpose.mode (level.plan.steps.take placed.2))
    (values : ∀ inner ∈ placed.1.workflow,
      (level.inside placed.2 placed.1 inner).HasValue σ contracts purpose) :
    level.TurnOf purpose.mode placed turn := by
  have leavesOut := entryOf.isLeftOut_eq mode
  obtain ⟨options, becomes⟩ := entryOf
  have emits : turn.emits = placed.1.isSent purpose.mode := by
    rw [Turn.emits, leavesOut, options, Bool.not_not]
    rfl
  refine ⟨emits, fun takesPart => ?_, fun isOut => ?_⟩
  · -- the turn makes a step, and what it makes depends on what the step of the plan became
    have isMade := taken.isSome_step?
    rw [leavesOut, takesPart, Bool.not_true, Bool.not_false] at isMade
    obtain ⟨built, made⟩ := Option.isSome_iff_exists.mp isMade
    refine ⟨built, made, ?_⟩
    generalize isGenerator : turn.entry.generator = generator at becomes
    cases becomes with
    | @call callData raw data flat isRaw =>
      cases taken with
      | leftOut => cases made
      | @made entry amount context before after step _ ran =>
        obtain rfl := Option.some.inj made
        rw [show entry.generator = raw.generator from isGenerator] at ran
        obtain ⟨clipboard, resolved, rfl⟩ := PlanStepOf.run_rawCall_ok isRaw ran
        rw [show context.tags = _ from tags] at resolved
        refine .call data flat (fun fixed given => ?_) resolved
        rw [show placed.1.amountOut = some fixed from given, Option.getD_some]
    | @plan inner below noData holds accepted =>
      obtain ⟨simulated, built, rfl⟩ := taken.simulated isGenerator made
      rw [values inner holds below _ _ _ _ accepted built, (describes accepted).cell, (describes accepted).name]
      exact .plan noData holds
  · have notMade := taken.isSome_step?
    rw [leavesOut, isOut, Bool.not_false, Bool.not_true] at notMade
    exact Option.isNone_iff_eq_none.mp (Option.isSome_eq_false_iff.mp notMade)

section Ran

variable {amount : Uint256} {world after : World σ} {turns : List (Turn σ)} {build : Build}

/-- Where the places of steps go along with turns, each step has a turn. -/
theorem exists_of_forall₂_zipIdx {R : PlanStep × Nat → Turn σ → Prop} {steps : List PlanStep}
    (all : List.Forall₂ R steps.zipIdx turns) {place : Nat} {step : PlanStep} (isStep : steps[place]? = some step) :
    ∃ turn, turns[place]? = some turn ∧ R (step, place) turn :=
  exists_of_forall₂ all (by simp [isStep])

/-- The turns of a build stand for the steps of the plan. -/
theorem entriesOf_turns (described : level.Describes contracts workflow)
    (ran : workflow.Ran purpose amount world turns build after) :
    List.Forall₂ (fun placed turn => level.EntryOf contracts placed turn.entry) level.plan.steps.zipIdx turns := by
  have entries := described.entries
  rwa [← ran.entries, List.forall₂_map_right_iff] at entries

/-- A turn has the options of a step, and is taken in a mode. -/
def Follows (mode : RunMode) (step : PlanStep) (turn : Turn σ) : Prop :=
  turn.entry.options = step.options ∧ turn.context.mode = mode

/-- Turns that follow some steps record the tags of the sent ones. -/
theorem tagsOf_recordsOf {mode : RunMode} {steps : List PlanStep}
    (follow : List.Forall₂ (Follows mode) steps turns) (taken : ∀ turn ∈ turns, turn.Taken purpose) :
    tagsOf (recordsOf turns) = PlanDocument.tagsIn mode steps := by
  suffices tags : (callsOf (recordsOf turns)).map (fun record => record.2.tag) =
      (steps.filter (·.isSent mode)).map (·.tag) by
    rw [tagsOf_eq_tagIndex, tags, PlanDocument.tagsIn]
  induction follow with
  | nil => rfl
  | @cons step turn steps turns first _ ih =>
    obtain ⟨options, isMode⟩ := first
    have ih := ih fun other isIn => taken other (List.mem_cons_of_mem _ isIn)
    rw [recordsOf_cons, callsOf_append, List.map_append, ih]
    cases taken turn List.mem_cons_self with
    | leftOut isOut =>
      have leftOut : step.takesPart mode = false := by
        rwa [show _ = step.options from options, PlanStepOf.leavesOut_options, show _ = mode from isMode,
          Bool.not_eq_true'] at isOut
      simp [Turn.record?, callsOf, PlanStepOf.isSent, leftOut]
    | @made entry _ _ _ _ _ isIn ran =>
      have options : entry.options = step.options := options
      have takesPart : step.takesPart mode = true := by
        rwa [options, PlanStepOf.leavesOut_options, show _ = mode from isMode, Bool.not_eq_false'] at isIn
      have emits : entry.options.onlyLocal = step.onlyLocal := by rw [options, PlanStepOf.options]
      have tag : entry.options.tag = step.tag := by rw [options, PlanStepOf.options]
      cases isLocal : step.onlyLocal <;>
        simp [Turn.record?, callsOf, PlanStepOf.isSent, takesPart, emits, tag, isLocal]

/-- Turns of the first entries follow the first steps of the plan. -/
theorem follow_of_prefix (described : level.Describes contracts workflow) {mode : RunMode}
    (entries : turns.map Turn.entry <+: workflow.entries) (isMode : ∀ turn ∈ turns, turn.context.mode = mode) :
    List.Forall₂ (Follows mode) (level.plan.steps.take turns.length) turns := by
  have first : workflow.entries.take turns.length = turns.map Turn.entry := by
    rw [List.prefix_iff_eq_take.mp entries, List.length_map]
  have entriesOf := List.forall₂_take turns.length described.entries
  rw [first, List.forall₂_map_right_iff, List.forall₂_iff_get] at entriesOf
  obtain ⟨sameLength, entriesOf⟩ := entriesOf
  rw [List.length_take, List.length_zipIdx] at sameLength
  rw [List.forall₂_iff_get]
  refine ⟨by rwa [List.length_take], fun place isStep isTurn => ?_⟩
  have entryOf := entriesOf place (by simpa using isStep) isTurn
  simp only [List.get_eq_getElem, List.getElem_take, List.getElem_zipIdx] at entryOf ⊢
  exact ⟨entryOf.1, isMode _ (List.getElem_mem isTurn)⟩

/-- The turns of a build follow the steps of the plan. -/
theorem follow_of_ran (described : level.Describes contracts workflow)
    (ran : workflow.Ran purpose amount world turns build after) :
    List.Forall₂ (Follows purpose.mode) level.plan.steps turns := by
  have follow := follow_of_prefix described (ran.entries ▸ List.prefix_rfl) ran.context_mode
  have sameLength := (entriesOf_turns described ran).length_eq
  rw [List.length_zipIdx] at sameLength
  rwa [List.take_of_length_le (by omega)] at follow

/-- What holds of every step and its turn holds all along the turns of a build. -/
theorem forall₂_of_ran (described : level.Describes contracts workflow)
    (ran : workflow.Ran purpose amount world turns build after) {R : PlanStep × Nat → Turn σ → Prop}
    (each : ∀ (place : Nat) (step : PlanStep) (turn : Turn σ), level.plan.steps[place]? = some step →
      turns[place]? = some turn → level.EntryOf contracts (step, place) turn.entry → R (step, place) turn) :
    List.Forall₂ R level.plan.steps.zipIdx turns := by
  have entries := entriesOf_turns described ran
  rw [List.forall₂_iff_get] at entries ⊢
  obtain ⟨sameLength, entries⟩ := entries
  refine ⟨sameLength, fun place isPlaced isTurn => ?_⟩
  have isStep : place < level.plan.steps.length := by simpa using isPlaced
  have entryOf := entries place isPlaced isTurn
  simp only [List.get_eq_getElem, List.getElem_zipIdx, Nat.zero_add] at entryOf ⊢
  exact each place _ _ (List.getElem?_eq_getElem isStep) (List.getElem?_eq_getElem isTurn) entryOf

/-- The turns of a build are those of the steps of the plan, when what is nested has its value. -/
theorem turnsOf_ran (described : level.Describes contracts workflow)
    (ran : workflow.Ran purpose amount world turns build after)
    (values : ∀ (place : Nat) (step : PlanStep) (inner : PlanDocument), level.plan.steps[place]? = some step →
      step.workflow = some inner → (level.inside place step inner).HasValue σ contracts purpose) :
    List.Forall₂ (level.TurnOf purpose.mode) level.plan.steps.zipIdx turns := by
  have follow := follow_of_ran described ran
  refine forall₂_of_ran described ran fun place step turn isStep isTurn entryOf => ?_
  obtain ⟨isLess, rfl⟩ := List.getElem?_eq_some_iff.mp isTurn
  -- the turns before this one follow the steps before this one, so they record their tags
  have split : turns = turns.take place ++ turns[place] :: turns.drop (place + 1) := by simp
  have before : tagsOf (recordsOf (turns.take place)) =
      PlanDocument.tagsIn purpose.mode (level.plan.steps.take place) :=
    tagsOf_recordsOf (List.forall₂_take place follow) fun turn isIn => ran.taken turn (List.mem_of_mem_take isIn)
  have tags : turns[place].context.tags = PlanDocument.tagsSeen purpose.mode (level.plan.steps.take place) := by
    have ran := ran
    rw [split] at ran
    rw [ran.context_tags, before, PlanDocument.tagsSeen]
  have isTurnIn := List.getElem_mem isLess
  exact turnOf_of_taken (ran.taken _ isTurnIn) entryOf (ran.context_mode _ isTurnIn) tags
    fun inner holds => values place step inner isStep holds

/-- Turns of some steps have the value of the steps. -/
theorem value_of_turns {mode : RunMode} {steps : List PlanStep} {place : Nat}
    (turnsOf : List.Forall₂ (level.TurnOf mode) (steps.zipIdx place) turns) :
    BitVec.ofNat 256 (totalOf (recordsOf turns)) = PlanDocument.valuesIn mode steps := by
  induction steps generalizing place turns with
  | nil =>
    cases turnsOf
    rfl
  | cons step rest ih =>
    rw [List.zipIdx_cons] at turnsOf
    obtain ⟨turn, others, turnOf, behind, rfl⟩ := List.forall₂_cons_left_iff.mp turnsOf
    rw [recordsOf_cons, totalOf_append, BitVec.ofNat_add, ih behind, PlanDocument.valuesIn]
    congr 1
    cases takesPart : step.takesPart mode with
    | false =>
      rw [Turn.record?, turnOf.leftOut takesPart]
      rfl
    | true =>
      obtain ⟨built, made, makes⟩ := turnOf.made takesPart
      rw [Turn.record?, made, if_pos rfl, ← makes.value]
      simp [totalOf, BuiltStep.cost]

/-- Every build of a plan has the value of the plan. -/
theorem hasValue (level : PlanLevel) : level.HasValue σ contracts purpose := by
  induction level using PlanLevel.induction with
  | level level ih =>
    intro workflow amount world build after accepted built
    obtain ⟨turns, ran⟩ := workflow.buildFor_ok built
    have turnsOf := turnsOf_ran (describes accepted) ran ih
    rw [ran.holds.value, value_of_turns turnsOf, PlanDocument.valueIn_eq]

/-- The turns of a build are those of the steps of the plan. -/
theorem turnsOf (accepted : level.workflow contracts = .ok workflow)
    (ran : workflow.Ran purpose amount world turns build after) :
    List.Forall₂ (level.TurnOf purpose.mode) level.plan.steps.zipIdx turns :=
  turnsOf_ran (describes accepted) ran fun _ _ _ _ _ => hasValue _

end Ran

/-! ## Builds -/

/-- What a build keeps of a level. -/
structure Kept (mode : RunMode) (level : PlanLevel) (build : Build) : Prop where
  /-- The emitted steps are those of the sent steps of the plan, in its order. -/
  emittedSteps : List.Forall₂ (level.Makes mode) (level.plan.sent mode) build.emittedSteps
  length : build.emitted.length = (level.plan.sent mode).length
  tags : build.tags = PlanDocument.tagsIn mode level.plan.steps
  /-- No tag is given to two sent steps. -/
  tags_nodup : (build.tags.map Prod.fst).Nodup
  value : build.value = level.plan.valueIn mode

/-- The call at a position is prepared from what the step sent there makes. -/
theorem Kept.exists_of_sent {mode : RunMode} {build : Build} (kept : level.Kept mode build) {nested : NestedCalls}
    {prepared : List NamedCall} (calls : List.Forall₂ (BuiltStep.Prepares nested) build.emittedSteps prepared)
    {position place : Nat} {step : PlanStep} (isSent : (level.plan.sent mode)[position]? = some (step, place)) :
    ∃ named built, prepared[position]? = some named ∧ level.Makes mode (step, place) built ∧
      built.Prepares nested named := by
  obtain ⟨isLess, found⟩ := List.getElem?_eq_some_iff.mp isSent
  have isLess' : position < build.emittedSteps.length := kept.emittedSteps.length_eq ▸ isLess
  have isLess'' : position < prepared.length := calls.length_eq ▸ isLess'
  have makes := kept.emittedSteps.get isLess isLess'
  simp only [List.get_eq_getElem, found] at makes
  exact ⟨prepared[position], build.emittedSteps[position], List.getElem?_eq_getElem isLess'', makes,
    calls.get isLess' isLess''⟩

/-- The levels that a build reaches: a level itself, and the levels below of the steps that take part. -/
inductive Reaches (mode : RunMode) : PlanLevel → PlanLevel → Prop
  | self {level : PlanLevel} : Reaches mode level level
  | within {level deep : PlanLevel} {place : Nat} {step : PlanStep} {inner : PlanDocument}
      (isStep : level.plan.steps[place]? = some step) (takesPart : step.takesPart mode = true)
      (holds : step.workflow = some inner) (deeper : Reaches mode (level.inside place step inner) deep) :
      Reaches mode level deep

/-- What a level reaches has a cell below its own. -/
theorem Reaches.suffix {mode : RunMode} {level deep : PlanLevel} (reaches : Reaches mode level deep) :
    level.cell <:+ deep.cell := by
  induction reaches with
  | self => exact List.suffix_rfl
  | within _ _ _ _ ih => exact (List.suffix_cons _ _).trans ih

/-- What a level reaches is a plan in its plan. -/
theorem Reaches.mem_levels {mode : RunMode} {level deep : PlanLevel} (reaches : Reaches mode level deep) :
    deep.plan ∈ level.plan.levels := by
  induction reaches with
  | self => exact PlanDocument.self_mem_levels _
  | within isStep _ holds _ ih => exact PlanDocument.levels_subset (List.mem_of_getElem? isStep) holds ih

/-- The emitted steps of turns are made by the sent steps. -/
theorem makes_of_turns {mode : RunMode} {placed : List (PlanStep × Nat)} {turns : List (Turn σ)}
    {steps : List BuiltStep} (turnsOf : List.Forall₂ (level.TurnOf mode) placed turns)
    (emitted : steps.map some = (emitting turns).map Turn.step?) :
    List.Forall₂ (level.Makes mode) (placed.filter (·.1.isSent mode)) steps := by
  induction turnsOf generalizing steps with
  | nil =>
    obtain rfl : steps = [] := by simpa [emitting] using emitted
    exact .nil
  | @cons placed turn rest turns turnOf _ ih =>
    cases isSent : placed.1.isSent mode with
    | false =>
      rw [List.filter_cons_of_neg (by simp [isSent])]
      rw [emitting, List.filter_cons_of_neg (by simp [turnOf.emits, isSent])] at emitted
      exact ih emitted
    | true =>
      obtain ⟨built, made, makes⟩ := turnOf.made (PlanStepOf.takesPart_of_isSent isSent)
      rw [List.filter_cons, if_pos isSent]
      rw [emitting, List.filter_cons_of_pos (by rw [turnOf.emits, isSent]), List.map_cons, made] at emitted
      obtain ⟨first, others, rfl, isFirst, behind⟩ := List.map_eq_cons_iff.mp emitted
      obtain rfl := Option.some.inj isFirst
      exact .cons makes (ih behind)

/-- A build that succeeds keeps its level. -/
theorem kept_of_ran {amount : Uint256} {world after : World σ} {turns : List (Turn σ)} {build : Build}
    (accepted : level.workflow contracts = .ok workflow)
    (ran : workflow.Ran purpose amount world turns build after) : level.Kept purpose.mode build := by
  have makes : List.Forall₂ (level.Makes purpose.mode) (level.plan.sent purpose.mode) build.emittedSteps :=
    makes_of_turns (turnsOf accepted ran) ran.emittedSteps
  refine ⟨makes, ?_, ?_, ran.holds.tags_nodup, ?_⟩
  · rw [makes.length_eq, ran.holds.emitted_length, ran.holds.emittedSteps, List.length_map]
  · rw [ran.holds.tags]
    exact tagsOf_recordsOf (follow_of_ran (describes accepted) ran) ran.taken
  · rw [ran.holds.value, value_of_turns (turnsOf accepted ran), PlanDocument.valueIn_eq]

/-- The cells hold a build for a level and for all levels that a build reaches from it. -/
def Stands (mode : RunMode) (cells : Cells) (level : PlanLevel) : Prop :=
  ∀ deep, Reaches mode level deep → ∃ build, cells deep.cell = some build ∧ deep.Kept mode build

/-- Where a level stands, those below its steps that take part do. -/
theorem Stands.inside {mode : RunMode} {cells : Cells} (stands : level.Stands mode cells) {place : Nat}
    {step : PlanStep} {inner : PlanDocument} (isStep : level.plan.steps[place]? = some step)
    (takesPart : step.takesPart mode = true) (holds : step.workflow = some inner) :
    (level.inside place step inner).Stands mode cells :=
  fun deep deeper => stands deep (.within isStep takesPart holds deeper)

/-- Where a level stands, all that it reaches do. -/
theorem Stands.reached {mode : RunMode} {cells : Cells} {deep : PlanLevel} (stands : level.Stands mode cells)
    (reaches : Reaches mode level deep) : deep.Stands mode cells := by
  induction reaches with
  | self => exact stands
  | within isStep takesPart holds _ ih => exact ih (stands.inside isStep takesPart holds)

/-- In a build, the turn of a nested plan whose step takes part builds the level below. -/
theorem built_inside {amount : Uint256} {world after : World σ} {turns : List (Turn σ)} {build : Build}
    (accepted : level.workflow contracts = .ok workflow)
    (ran : workflow.Ran purpose amount world turns build after) {place : Nat} {step : PlanStep}
    {inner : PlanDocument} (isStep : level.plan.steps[place]? = some step)
    (takesPart : step.takesPart purpose.mode = true) (holds : step.workflow = some inner) :
    ∃ (below : Workflow σ) (turn : Turn σ) (simulated : Build),
      (level.inside place step inner).workflow contracts = .ok below ∧ turns[place]? = some turn ∧
        below.buildFor purpose turn.amount turn.before = (.ok simulated, turn.after) := by
  obtain ⟨turn, isTurn, turnOf⟩ := exists_of_forall₂_zipIdx (turnsOf accepted ran) isStep
  obtain ⟨turn', isTurn', entryOf⟩ := exists_of_forall₂_zipIdx (entriesOf_turns (describes accepted) ran) isStep
  obtain rfl := Option.some.inj (isTurn.symm.trans isTurn')
  obtain ⟨below, isGenerator, accepted⟩ := entryOf.nested holds
  obtain ⟨step, made, -⟩ := turnOf.made takesPart
  obtain ⟨simulated, built, -⟩ := (ran.taken turn (List.mem_of_getElem? isTurn)).simulated isGenerator made
  exact ⟨below, turn, simulated, accepted, isTurn, built⟩

/-- The cells below the place of a turn stay as the turn leaves them: no other turn has them, for they lie below
other places. -/
theorem cells_inside {amount : Uint256} {world after : World σ} {turns : List (Turn σ)} {build : Build}
    (accepted : level.workflow contracts = .ok workflow)
    (ran : workflow.Ran purpose amount world turns build after) {place : Nat} {turn : Turn σ}
    (isTurn : turns[place]? = some turn) {cell : CellId} (address : (place :: level.cell) <:+ cell) :
    after.cells cell = turn.after.cells cell := by
  have described := describes accepted
  obtain ⟨isLess, rfl⟩ := List.getElem?_eq_some_iff.mp isTurn
  have split : turns = turns.take place ++ turns[place] :: turns.drop (place + 1) := by simp
  have ran' := ran
  rw [split] at ran'
  refine ran'.cells_eq ?_ fun other isOther isCell => ?_
  · rw [described.cell]
    exact ne_of_suffix address
  · obtain ⟨index, isThere, isApart⟩ : ∃ index, turns[index]? = some other ∧ index ≠ place := by
      rcases List.mem_append.mp isOther with before | behind
      · obtain ⟨index, isLess, rfl⟩ := List.mem_take_iff_getElem.mp before
        exact ⟨index, List.getElem?_eq_getElem _, by omega⟩
      · obtain ⟨index, isLess, rfl⟩ := List.mem_drop_iff_getElem.mp behind
        exact ⟨place + 1 + index, List.getElem?_eq_getElem _, by omega⟩
    have isEntry : workflow.entries[index]? = some other.entry := by
      rw [← ran.entries, List.getElem?_map, isThere, Option.map_some]
    obtain ⟨otherStep, -, otherEntry⟩ := described.entry_at isEntry
    exact isApart (place_eq_of_suffix (otherEntry.suffix_of_mem_cells isCell) address)

/-- After a build that succeeds, the level stands. -/
theorem stands_of_buildFor {amount : Uint256} {world after : World σ} {build : Build}
    (accepted : level.workflow contracts = .ok workflow)
    (built : workflow.buildFor purpose amount world = (.ok build, after)) :
    level.Stands purpose.mode after.cells := by
  intro deep reaches
  induction reaches generalizing workflow amount world build after with
  | @self level =>
    obtain ⟨turns, ran⟩ := workflow.buildFor_ok built
    exact ⟨build, (describes accepted).cell ▸ ran.kept, kept_of_ran accepted ran⟩
  | @within level deep place step inner isStep takesPart holds deeper ih =>
    obtain ⟨turns, ran⟩ := workflow.buildFor_ok built
    obtain ⟨below, turn, simulated, accepted', isTurn, built'⟩ := built_inside accepted ran isStep takesPart holds
    obtain ⟨inside, held, kept⟩ := ih accepted' built'
    exact ⟨inside, (cells_inside accepted ran isTurn deeper.suffix).trans held, kept⟩

/-- After a build that has an answer, the level stands. -/
theorem stands_of_build {amount out : Uint256} {mode : RunMode} {data : RunData} {world : World σ}
    (accepted : level.workflow contracts = .ok workflow)
    (ok : (workflow.build amount mode data world).1 = .ok out) :
    level.Stands mode (workflow.build amount mode data world).2.cells := by
  obtain ⟨build, -, built⟩ := Workflow.build_ok (Prod.ext ok rfl)
  exact stands_of_buildFor accepted built

end PlanLevel

end CallWeave
