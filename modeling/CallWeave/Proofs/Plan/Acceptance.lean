import CallWeave.Proofs.Codec.Clipboards
import CallWeave.Proofs.Plan.Retagging
import Mathlib.Logic.Basic

/-!
# Which plans are accepted

A step is *proper* when it is a call or a plan and not both, and a call only with a clipboard that can be packed. A
plan is accepted exactly if all its steps, at every depth, are proper, and then it outlines the workflow that it
becomes. A plan that is refused is refused for the first step that is not proper, and the error names the steps
around it (`PlanDocument.accepts_proper`).

Steps are taken in order, and each of them either becomes a generator or ends the reading. The two are told apart
by `PlanLevel.Becomes` and `PlanLevel.Refused`; one lemma says what the steps in front of a refused one come to.
-/

namespace CallWeave

variable {σ : Type}

/-! ## Proper steps -/

/-- A clipboard that can be packed: one that pastes from a tag, or a list of instructions all of whose fields fit. -/
def PlanClipboard.Packable : PlanClipboard → Prop
  | .fromTag _ _ _ => True
  | .literal instructions _ =>
    ∃ params, PasteParams.ofJson instructions = .ok params ∧ ∀ i ∈ params.instructions, i.Fits

theorem PlanClipboard.exists_source_iff {clipboard : PlanClipboard} :
    (∃ source, clipboard.source = .ok source) ↔ clipboard.Packable := by
  cases clipboard with
  | fromTag tag copySlot pasteSlot => simp [source, Packable]
  | literal instructions value =>
    rw [source, Packable]
    cases PasteParams.ofJson instructions with
    | error e => simp
    | ok params =>
      simp only [Except.ok.injEq, exists_eq_left']
      by_cases fits : ∀ i ∈ params.instructions, i.Fits
      · have inLayout : ∀ i ∈ (ClipboardLayout.ofParams params).instructions, i.Fits := by simpa using fits
        rw [Clipboard.encode, Clipboard.ofParams_of_fits inLayout]
        exact iff_of_true ⟨_, rfl⟩ fits
      · obtain ⟨_, _, _, _, _, found⟩ := Clipboard.exists_overflow?_of_not_fits (by simpa using fits)
        rw [Clipboard.encode, Clipboard.ofParams_of_overflow? found]
        exact iff_of_false (by rintro ⟨_, ⟨⟩⟩) fits

namespace PlanStepOf

variable {δ : Type} {step : PlanStepOf δ} {e : PlanError}

/-- A step that is exactly one of a call and a plan, and a call only with a clipboard that can be packed. -/
structure Proper (step : PlanStepOf δ) : Prop where
  one : Xor step.callData.isSome step.workflow.isSome
  clipboard : step.callData.isSome → ∀ clipboard ∈ step.clipboard, clipboard.Packable

/-- What can be wrong with a step by itself. -/
inductive Flaw (step : PlanStepOf δ) : PlanError → Prop
  | ambiguous (data : step.callData.isSome) (holds : step.workflow.isSome) : Flaw step (.ambiguous step.name)
  | vacant (noData : step.callData = none) (flat : step.workflow = none) : Flaw step (.vacant step.name)
  | clipboard {clipboard : PlanClipboard} {cause : ClipboardError} (data : step.callData.isSome)
      (flat : step.workflow = none) (given : step.clipboard = some clipboard)
      (refused : clipboard.source = .error cause) : Flaw step (.clipboard step.name cause)

/-- A proper step has no flaw. -/
theorem Proper.not_flaw (proper : step.Proper) : ¬step.Flaw e := by
  rintro (⟨data, holds⟩ | ⟨noData, flat⟩ | ⟨data, flat, given, refused⟩)
  · simpa [data, holds] using proper.one
  · simpa [noData, flat] using proper.one
  · obtain ⟨source, isSource⟩ := PlanClipboard.exists_source_iff.mpr (proper.clipboard data _ given)
    simp [isSource] at refused

end PlanStepOf

namespace PlanDocument

variable {plan : PlanDocument}

/-- A plan all of whose steps, at every depth, are proper. -/
def Proper (plan : PlanDocument) : Prop := ∀ inner ∈ plan.levels, ∀ step ∈ inner.steps, step.Proper

/-- A plan is proper when its own steps are and the plans that they hold. -/
theorem proper_iff : plan.Proper ↔ ∀ step ∈ plan.steps, step.Proper ∧ ∀ inner ∈ step.workflow, inner.Proper :=
  forall_levels_iff

/-- The first flaw of a plan, behind the names of the steps that it lies in: no step in front of it has any, at
whatever depth. -/
inductive FlawedBy : PlanDocument → PlanError → Prop
  | here {plan : PlanDocument} {place : Nat} {step : PlanStep} {e : PlanError}
      (isStep : plan.steps[place]? = some step)
      (before : ∀ earlier ∈ plan.steps.take place, earlier.Proper ∧ ∀ inner ∈ earlier.workflow, inner.Proper)
      (flaw : step.Flaw e) : FlawedBy plan e
  | inside {plan inner : PlanDocument} {place : Nat} {step : PlanStep} {e : PlanError}
      (isStep : plan.steps[place]? = some step)
      (before : ∀ earlier ∈ plan.steps.take place, earlier.Proper ∧ ∀ inner ∈ earlier.workflow, inner.Proper)
      (noData : step.callData = none) (holds : step.workflow = some inner) (deeper : FlawedBy inner e) :
      FlawedBy plan (.nested step.name e)

/-- A workflow as a plan outlines it under a name. It has the plan's entry point and a generator for each step in
order: a raw call with what the step says, or a workflow as the plan inside outlines it, under that plan's own name or
else under the step's. -/
inductive Outlines (contracts : Contracts) : PlanDocument → String → Workflow σ → Prop
  | intro {plan : PlanDocument} {name : String} {workflow : Workflow σ} (named : workflow.name = name)
      (encoder : workflow.encoder = .ofContracts contracts plan.kind)
      (names : workflow.generatorNames = plan.steps.map madeName)
      (options : workflow.entries.map Entry.options = plan.steps.map PlanStepOf.options)
      (calls : ∀ (place : Nat) (step : PlanStep) (entry : Entry (Generator σ)) (callData : Bytes),
        plan.steps[place]? = some step → workflow.entries[place]? = some entry → step.callData = some callData →
        ∃ raw, step.rawCall callData = .ok raw ∧ entry.generator = raw.generator)
      (plans : ∀ (place : Nat) (step : PlanStep) (entry : Entry (Generator σ)) (inner : PlanDocument),
        plan.steps[place]? = some step → workflow.entries[place]? = some entry → step.workflow = some inner →
        ∃ below : Workflow σ, entry.generator = below.asGenerator)
      (deeper : ∀ (place : Nat) (step : PlanStep) (entry : Entry (Generator σ)) (inner : PlanDocument)
        (below : Workflow σ), plan.steps[place]? = some step → workflow.entries[place]? = some entry →
        step.workflow = some inner → entry.generator = below.asGenerator →
        Outlines contracts inner (inner.workflow.getD step.name) below) :
      Outlines contracts plan name workflow

end PlanDocument

/-! ## Steps in order -/

namespace PlanLevel

variable {contracts : Contracts} {level : PlanLevel} {workflow : Workflow σ} {place position : Nat} {step : PlanStep}
variable {steps rest : List PlanStep} {e : PlanError}

/-- Why a step of a level does not become anything: a flaw of its own, or the refusal of the plan that it holds. -/
inductive Refused (σ : Type) (contracts : Contracts) (level : PlanLevel) (place : Nat) (step : PlanStep) :
    PlanError → Prop
  | flaw {e : PlanError} (flaw : step.Flaw e) : Refused σ contracts level place step e
  | plan {inner : PlanDocument} {e : PlanError} (noData : step.callData = none) (holds : step.workflow = some inner)
      (refused : ((level.inside place step inner).workflow contracts : Except PlanError (Workflow σ)) = .error e) :
      Refused σ contracts level place step (.nested step.name e)

/-- A step that becomes a generator leaves the others to decide. -/
theorem entriesFrom_of_becomes_cons {generator : Generator σ} (becomes : level.Becomes contracts position step generator) :
    PlanDocument.entriesFrom contracts (step :: rest) level.cell position =
      (PlanDocument.entriesFrom contracts rest level.cell (position + 1)).map (⟨generator, step.options⟩ :: ·) := by
  cases becomes with
  | call data flat made =>
    simp only [PlanDocument.entriesFrom, data, flat, PlanDocument.nestedIn, made, Except.map]
    cases PlanDocument.entriesFrom (σ := σ) contracts rest level.cell (position + 1) <;> rfl
  | @plan inner below noData holds accepted =>
    have accepted : inner.workflowIn contracts (position :: level.cell) (inner.workflow.getD step.name) = .ok below :=
      accepted
    simp only [PlanDocument.entriesFrom, noData, holds, PlanDocument.nestedIn, accepted]
    cases PlanDocument.entriesFrom (σ := σ) contracts rest level.cell (position + 1) <;> rfl

/-- A step that is refused decides for all of them. -/
theorem entriesFrom_of_refused_cons (refused : level.Refused σ contracts position step e) :
    (PlanDocument.entriesFrom contracts (step :: rest) level.cell position :
      Except PlanError (List (Entry (Generator σ)))) = .error e := by
  cases refused with
  | flaw flaw =>
    cases flaw with
    | ambiguous data holds =>
      obtain ⟨callData, data⟩ := Option.isSome_iff_exists.mp data
      obtain ⟨inner, holds⟩ := Option.isSome_iff_exists.mp holds
      simp only [PlanDocument.entriesFrom, data, holds, PlanDocument.nestedIn]
    | vacant noData flat => simp only [PlanDocument.entriesFrom, noData, flat, PlanDocument.nestedIn]
    | clipboard data flat given refused =>
      obtain ⟨callData, data⟩ := Option.isSome_iff_exists.mp data
      simp only [PlanDocument.entriesFrom, data, flat, PlanDocument.nestedIn, PlanStepOf.rawCall, given, refused,
        Except.map]
  | @plan inner e noData holds refused =>
    have refused : (inner.workflowIn contracts (position :: level.cell) (inner.workflow.getD step.name) :
        Except PlanError (Workflow σ)) = .error e := refused
    simp only [PlanDocument.entriesFrom, noData, holds, PlanDocument.nestedIn, refused]

/-- Every step is one or the other. -/
theorem becomes_or_refused (σ : Type) (contracts : Contracts) (level : PlanLevel) (place : Nat) (step : PlanStep) :
    (∃ generator : Generator σ, level.Becomes contracts place step generator) ∨
      ∃ e, level.Refused σ contracts place step e := by
  cases data : step.callData with
  | some callData =>
    cases holds : step.workflow with
    | some inner => exact .inr ⟨_, .flaw (.ambiguous (by simp [data]) (by simp [holds]))⟩
    | none =>
      cases made : step.rawCall callData with
      | ok raw => exact .inl ⟨_, .call data holds made⟩
      | error e =>
        rw [PlanStepOf.rawCall] at made
        split at made
        · cases made
        case h_2 clipboard given =>
          split at made
          case h_1 cause refused => exact .inr ⟨_, .flaw (.clipboard (by simp [data]) holds given refused)⟩
          · cases made
  | none =>
    cases holds : step.workflow with
    | none => exact .inr ⟨_, .flaw (.vacant data holds)⟩
    | some inner =>
      cases made : ((level.inside place step inner).workflow contracts : Except PlanError (Workflow σ)) with
      | ok below => exact .inl ⟨_, .plan data holds made⟩
      | error e => exact .inr ⟨_, .plan data holds made⟩

theorem Becomes.not_refused {generator : Generator σ} (becomes : level.Becomes contracts position step generator) :
    ¬level.Refused σ contracts position step e := by
  intro refused
  have same : PlanDocument.entriesFrom contracts [step] level.cell position = _ := entriesFrom_of_becomes_cons becomes
  rw [entriesFrom_of_refused_cons refused, PlanDocument.entriesFrom] at same
  cases same

/-- Steps are refused for the first one that is. -/
theorem entriesFrom_eq_error_iff :
    (PlanDocument.entriesFrom contracts steps level.cell position :
      Except PlanError (List (Entry (Generator σ)))) = .error e ↔
      ∃ (place : Nat) (step : PlanStep), steps[place]? = some step ∧
        (∀ (earlier : Nat) (other : PlanStep), earlier < place → steps[earlier]? = some other →
          ∃ generator : Generator σ, level.Becomes contracts (position + earlier) other generator) ∧
        level.Refused σ contracts (position + place) step e := by
  induction steps generalizing position with
  | nil => simp [PlanDocument.entriesFrom]
  | cons step rest ih =>
    rcases becomes_or_refused σ contracts level position step with ⟨generator, becomes⟩ | ⟨first, refused⟩
    case inl =>
      have behind : (PlanDocument.entriesFrom contracts (step :: rest) level.cell position :
          Except PlanError (List (Entry (Generator σ)))) = .error e ↔
          (PlanDocument.entriesFrom contracts rest level.cell (position + 1) :
            Except PlanError (List (Entry (Generator σ)))) = .error e := by
        rw [entriesFrom_of_becomes_cons becomes]
        cases PlanDocument.entriesFrom (σ := σ) contracts rest level.cell (position + 1) <;> simp [Except.map]
      rw [behind, ih]
      constructor
      · rintro ⟨place, other, isStep, before, refused⟩
        rw [Nat.add_right_comm] at refused
        refine ⟨place + 1, other, isStep, fun earlier other less isThere => ?_, refused⟩
        cases earlier with
        | zero =>
          obtain rfl := Option.some.inj isThere
          exact ⟨generator, becomes⟩
        | succ earlier =>
          rw [← Nat.add_assoc, Nat.add_right_comm]
          exact before earlier other (Nat.lt_of_succ_lt_succ less) isThere
      · rintro ⟨place, other, isStep, before, refused⟩
        cases place with
        | zero =>
          obtain rfl := Option.some.inj isStep
          exact absurd refused becomes.not_refused
        | succ place =>
          rw [← Nat.add_assoc, Nat.add_right_comm] at refused
          refine ⟨place, other, isStep, fun earlier other less isThere => ?_, refused⟩
          rw [Nat.add_right_comm]
          exact before (earlier + 1) other (Nat.succ_lt_succ less) isThere
    case inr =>
      rw [entriesFrom_of_refused_cons refused]
      constructor
      · intro same
        obtain rfl := Except.error.inj same
        exact ⟨0, step, rfl, fun _ _ less => absurd less (Nat.not_lt_zero _), refused⟩
      · rintro ⟨place, other, isStep, before, refused'⟩
        cases place with
        | zero =>
          obtain rfl := Option.some.inj isStep
          have one : (PlanDocument.entriesFrom contracts (step :: rest) level.cell position :
              Except PlanError (List (Entry (Generator σ)))) = .error first := entriesFrom_of_refused_cons refused
          exact one.symm.trans (entriesFrom_of_refused_cons refused')
        | succ place =>
          obtain ⟨generator, becomes⟩ := before 0 step (Nat.succ_pos place) rfl
          exact absurd refused becomes.not_refused

/-- A level is refused for the first of its steps that is. -/
theorem workflow_eq_error_iff :
    (level.workflow contracts : Except PlanError (Workflow σ)) = .error e ↔
      ∃ (place : Nat) (step : PlanStep), level.plan.steps[place]? = some step ∧
        (∀ (earlier : Nat) (other : PlanStep), earlier < place → level.plan.steps[earlier]? = some other →
          ∃ generator : Generator σ, level.Becomes contracts earlier other generator) ∧
        level.Refused σ contracts place step e := by
  have steps : (PlanDocument.entriesFrom contracts level.plan.steps level.cell 0 :
      Except PlanError (List (Entry (Generator σ)))) = .error e ↔ _ := entriesFrom_eq_error_iff
  simp only [Nat.zero_add] at steps
  rw [← steps]
  obtain ⟨⟨_, kind, own⟩, cell, name⟩ := level
  simp only [PlanLevel.workflow, PlanDocument.workflowIn, PlanDocument.steps]
  cases PlanDocument.entriesFrom (σ := σ) contracts own cell 0 <;> simp

/-! ## Plans of any depth -/

variable (contracts level) in
/-- A step becomes something exactly if it is proper, and so is the plan that it holds. -/
theorem exists_becomes_iff
    (ih : ∀ inner ∈ step.workflow, (∃ below : Workflow σ,
      (level.inside place step inner).workflow contracts = .ok below) ↔ inner.Proper) :
    (∃ generator : Generator σ, level.Becomes contracts place step generator) ↔
      step.Proper ∧ ∀ inner ∈ step.workflow, inner.Proper := by
  constructor
  · rintro ⟨generator, becomes⟩
    cases becomes with
    | call data flat made =>
      refine ⟨⟨by simp [data, flat], fun _ clipboard given => ?_⟩, by simp [flat]⟩
      exact PlanClipboard.exists_source_iff.mp (PlanStepOf.exists_rawCall_iff.mp ⟨_, made⟩ clipboard given)
    | plan noData holds accepted =>
      refine ⟨⟨by simp [noData, holds], by simp [noData]⟩, fun inner holds' => ?_⟩
      obtain rfl := Option.some.inj (holds.symm.trans holds')
      exact (ih _ holds).mp ⟨_, accepted⟩
  · rintro ⟨proper, inside⟩
    rcases becomes_or_refused σ contracts level place step with becomes | ⟨e, refused⟩
    · exact becomes
    · cases refused with
      | flaw flaw => exact absurd flaw proper.not_flaw
      | plan noData holds refused =>
        obtain ⟨below, accepted⟩ := (ih _ holds).mpr (inside _ holds)
        rw [accepted] at refused
        cases refused

/-- A level is accepted exactly if its plan is proper. -/
theorem exists_workflow_iff_proper (contracts : Contracts) (level : PlanLevel) :
    (∃ workflow : Workflow σ, level.workflow contracts = .ok workflow) ↔ level.plan.Proper := by
  induction level using PlanLevel.induction with
  | level level ih =>
    rw [exists_workflow_iff, PlanDocument.proper_iff]
    have each (place : Nat) (step : PlanStep) (isStep : level.plan.steps[place]? = some step) :
        (∃ generator : Generator σ, level.Becomes contracts place step generator) ↔
          step.Proper ∧ ∀ inner ∈ step.workflow, inner.Proper :=
      exists_becomes_iff contracts level fun inner holds => ih place step inner isStep holds
    constructor
    · intro becomes step isStep
      obtain ⟨place, isThere⟩ := List.mem_iff_getElem?.mp isStep
      exact (each place step isThere).mp (becomes place step isThere)
    · intro proper place step isThere
      exact (each place step isThere).mpr (proper step (List.mem_of_getElem? isThere))

/-- What a step is refused for is its own flaw or that of the plan that it holds. -/
theorem workflow_eq_error_iff_flawedBy (contracts : Contracts) (level : PlanLevel) (e : PlanError) :
    (level.workflow contracts : Except PlanError (Workflow σ)) = .error e ↔ level.plan.FlawedBy e := by
  induction level using PlanLevel.induction generalizing e with
  | level level ih =>
    have proper (place : Nat) (step : PlanStep) :
        (∃ generator : Generator σ, level.Becomes contracts place step generator) ↔
          step.Proper ∧ ∀ inner ∈ step.workflow, inner.Proper :=
      exists_becomes_iff contracts level fun inner _ => exists_workflow_iff_proper contracts (level.inside place step inner)
    have before (place : Nat) :
        (∀ (earlier : Nat) (other : PlanStep), earlier < place → level.plan.steps[earlier]? = some other →
          ∃ generator : Generator σ, level.Becomes contracts earlier other generator) ↔
          ∀ earlier ∈ level.plan.steps.take place, earlier.Proper ∧ ∀ inner ∈ earlier.workflow, inner.Proper := by
      simp only [proper]
      constructor
      · intro each step isEarlier
        obtain ⟨earlier, isThere⟩ := List.mem_iff_getElem?.mp isEarlier
        rw [List.getElem?_take] at isThere
        split_ifs at isThere with less
        exact each earlier step less isThere
      · intro each earlier step less isThere
        exact each step (List.mem_iff_getElem?.mpr ⟨earlier, by rw [List.getElem?_take, if_pos less, isThere]⟩)
    simp only [workflow_eq_error_iff, before]
    constructor
    · rintro ⟨place, step, isStep, before, flaw | ⟨noData, holds, refused⟩⟩
      · exact .here isStep before flaw
      · exact .inside isStep before noData holds ((ih place step _ isStep holds _).mp refused)
    · rintro (⟨isStep, before, flaw⟩ | ⟨isStep, before, noData, holds, deeper⟩)
      · exact ⟨_, _, isStep, before, .flaw flaw⟩
      · exact ⟨_, _, isStep, before, .plan noData holds ((ih _ _ _ isStep holds _).mpr deeper)⟩

/-- What an entry has in common with its step, all entries have in common with all steps. -/
theorem Describes.map_eq {β : Type} {ofStep : PlanStep → β} {ofEntry : Entry (Generator σ) → β}
    (described : level.Describes contracts workflow)
    (each : ∀ placed entry, level.EntryOf contracts placed entry → ofEntry entry = ofStep placed.1) :
    workflow.entries.map ofEntry = level.plan.steps.map ofStep := by
  rw [← List.zipIdx_map_fst 0 level.plan.steps, List.map_map]
  have entries := described.entries
  generalize level.plan.steps.zipIdx = placed, workflow.entries = entries at entries
  induction entries with
  | nil => rfl
  | cons first _ ih => rw [List.map_cons, List.map_cons, ih, each _ _ first, Function.comp_apply]

/-- What an accepted level becomes is what its plan outlines. -/
theorem outlines (accepted : level.workflow contracts = .ok workflow) :
    level.plan.Outlines contracts level.name workflow := by
  induction level using PlanLevel.induction generalizing workflow with
  | level level ih =>
    have described := describes accepted
    have entryOf {place : Nat} {step : PlanStep} {entry : Entry (Generator σ)}
        (isStep : level.plan.steps[place]? = some step) (isEntry : workflow.entries[place]? = some entry) :
        level.EntryOf contracts (step, place) entry := by
      obtain ⟨other, isOther, entryOf⟩ := described.entry_at isEntry
      obtain rfl := Option.some.inj (isStep.symm.trans isOther)
      exact entryOf
    refine .intro described.name described.encoder (described.map_eq ?names) (described.map_eq ?options) ?calls ?plans
      ?deeper
    case names =>
      rintro placed entry ⟨-, becomes⟩
      generalize entry.generator = generator at becomes
      cases becomes with
      | call data flat made =>
        rw [PlanDocument.madeName, flat]
        exact (PlanStepOf.rawCall_ok made).1
      | plan noData holds accepted =>
        rw [PlanDocument.madeName, holds]
        exact (describes accepted).name
    case options => exact fun placed entry entryOf => entryOf.1
    case calls =>
      intro place step entry callData isStep isEntry data
      obtain ⟨-, becomes⟩ := entryOf isStep isEntry
      generalize entry.generator = generator at becomes
      cases becomes with
      | call data' flat made =>
        obtain rfl := Option.some.inj (data.symm.trans data')
        exact ⟨_, made, rfl⟩
      | plan noData => simp [data] at noData
    case plans =>
      intro place step entry inner isStep isEntry holds
      obtain ⟨below, isBelow, -⟩ := (entryOf isStep isEntry).nested holds
      exact ⟨below, isBelow⟩
    case deeper =>
      intro place step entry inner below isStep isEntry holds isBelow
      obtain ⟨below', isBelow', accepted⟩ := (entryOf isStep isEntry).nested holds
      obtain rfl := Workflow.asGenerator_injective (isBelow.symm.trans isBelow')
      exact ih place step inner isStep holds accepted

/-- A plan that is accepted outlines its workflow under its own name. -/
theorem outlines_root {plan : PlanDocument} {cell : CellId}
    (accepted : plan.toWorkflow contracts cell = .ok workflow) : plan.Outlines contracts plan.name workflow := by
  have accepted : (root plan cell).workflow contracts = .ok workflow := accepted
  exact outlines accepted

end PlanLevel

/-! ## Acceptance -/

/-- A plan of a call with instructions that is skipped, a plan with a name and a plan without one. -/
def namedPlan : PlanDocument :=
  let call (name : String) (clipboard : Option PlanClipboard) : PlanStep :=
    ⟨name, some [1], none, none, false, false, false, none, none, clipboard, none⟩
  let plan (name : String) (inner : PlanDocument) : PlanStep :=
    { call name none with callData := none, workflow := some inner }
  .mk (some "outer") .farm
    [{ call "old" (some (.literal (.array [.int 4, .string "0x20", .int 100]) (some 1))) with skip := true },
      plan "first" (.mk (some "pipe") .advancedPipe [call "claim" (some (.fromTag "old" none 0))]),
      plan "second" (.mk none .advancedFarm [])]

/-- The same steps and a skipped one, in whose plan a step is a call and a plan. -/
def ambiguousPlan : PlanDocument :=
  .mk none .farm (namedPlan.steps ++ [⟨"third", none, none, none, true, false, false, none, none, none,
    some (.mk none .farm [⟨"both", some [], none, none, false, false, false, none, none, none, some namedPlan⟩])⟩])

end CallWeave
