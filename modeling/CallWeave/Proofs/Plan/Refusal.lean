import CallWeave.Proofs.Build.Stops
import CallWeave.Proofs.Codec.Slots
import CallWeave.Proofs.Plan.Turns

/-!
# Plans whose builds fail

A build of a plan fails for one reason: at some level that it reaches, two sent steps have one tag
(`PlanLevel.refuses_of_buildFor_error`). Nothing else in a step can fail when its turn comes. In particular
a reference to an earlier step never does: slots are numbers of 64 bits, so their offsets fit the 80 bits of
an instruction, and so does a position as long as a level has no more steps than 80 bits can number.
-/

namespace CallWeave

variable {σ : Type}

/-! ## References -/

/-- The instruction that copies a word of the call at a position, its places given by slots. -/
def Instruction.ofSlots (position : Nat) (copySlot pasteSlot : UInt64) : Instruction :=
  ⟨BitVec.ofNat 128 position, BitVec.ofNat 128 (32 + 32 * copySlot.toNat),
    BitVec.ofNat 128 (36 + 32 * pasteSlot.toNat)⟩

section OfSlots

variable {position : Nat} (isSmall : position ≤ Instruction.maxField) (copySlot pasteSlot : UInt64)
include isSmall

/-- Its fields are what they are meant to be, and they fit. -/
theorem Instruction.toNat_ofSlots :
    (ofSlots position copySlot pasteSlot).source.toNat = position ∧
      (ofSlots position copySlot pasteSlot).copy.toNat = 32 + 32 * copySlot.toNat ∧
      (ofSlots position copySlot pasteSlot).paste.toNat = 36 + 32 * pasteSlot.toNat := by
  have copySmall := copySlot.toNat_lt
  have pasteSmall := pasteSlot.toNat_lt
  have isSmall : position ≤ 2 ^ 80 - 1 := isSmall
  simp only [ofSlots, BitVec.toNat_ofNat]
  refine ⟨Nat.mod_eq_of_lt ?_, Nat.mod_eq_of_lt ?_, Nat.mod_eq_of_lt ?_⟩ <;> omega

theorem Instruction.fits_ofSlots : (ofSlots position copySlot pasteSlot).Fits := by
  have copySmall := copySlot.toNat_lt
  have pasteSmall := pasteSlot.toNat_lt
  obtain ⟨source, copy, paste⟩ := toNat_ofSlots isSmall copySlot pasteSlot
  have bound : maxField = 2 ^ 80 - 1 := rfl
  rw [Fits, source, copy, paste, bound]
  omega

/-- The clipboard of a slot is encoded whatever the slot is. -/
theorem Clipboard.encodeSlot_ofSlots :
    encodeSlot (BitVec.ofNat 128 position) (BitVec.ofNat 128 copySlot.toNat) (BitVec.ofNat 128 pasteSlot.toNat) 0 =
      .ok (toBytes ⟨.single (.ofSlots position copySlot pasteSlot), 0, by
        simpa [ClipboardLayout.instructions] using Instruction.fits_ofSlots isSmall copySlot pasteSlot⟩) := by
  have fits := Instruction.fits_ofSlots isSmall copySlot pasteSlot
  obtain ⟨-, copied, pasted⟩ := Instruction.toNat_ofSlots isSmall copySlot pasteSlot
  refine encodeSlot_eq_ok_iff.mpr ⟨_, Instruction.slot_eq_ok_iff.mpr ⟨rfl, ?_, ?_, fits⟩, encode_flat fits 0⟩
  · rw [copied, Instruction.toNat_ofUInt64]
  · rw [pasted, Instruction.toNat_ofUInt64]

end OfSlots

/-- Whatever tag and slots a reference has, it is resolved. -/
theorem RunContext.pasteFrom_ok {context : RunContext}
    (small : ∀ tagged ∈ context.tags, tagged.2 ≤ Instruction.maxField) (tag : String) (copySlot : Option UInt64)
    (pasteSlot : UInt64) : ∃ bytes, context.pasteFrom tag copySlot pasteSlot = .ok bytes := by
  simp only [pasteFrom]
  split
  case h_1 _ _ position copy found =>
    obtain ⟨before, after, tags, -⟩ := List.lookup_eq_some_iff.mp found
    have isSmall := small (tag, position) (by rw [tags]; simp)
    exact ⟨_, Clipboard.encodeSlot_ofSlots isSmall copy pasteSlot⟩
  case h_2 => exact ⟨_, rfl⟩

/-- The clipboard of a step that became a raw call is resolved. -/
theorem PlanStepOf.clipboardSeeing_ok {δ : Type} {step : PlanStepOf δ} {callData : Bytes} {raw : RawCall}
    (made : step.rawCall callData = .ok raw) {tags : TagIndex}
    (small : ∀ tagged ∈ tags, tagged.2 ≤ Instruction.maxField) :
    ∃ clipboard, step.clipboardSeeing tags = .ok clipboard := by
  simp only [rawCall] at made
  simp only [clipboardSeeing_eq]
  cases given : step.clipboard with
  | none => exact ⟨none, rfl⟩
  | some clipboard =>
    cases sourced : clipboard.source with
    | error e => simp [given, sourced] at made
    | ok source =>
      cases source with
      | absent => exact ⟨none, by simp [sourced, ClipboardSource.resolve]⟩
      | literal bytes => exact ⟨some bytes, by simp [sourced, ClipboardSource.resolve]⟩
      | fromTag tag copySlot pasteSlot =>
        have small : ∀ tagged ∈ (RunContext.ofTags tags).tags, tagged.2 ≤ Instruction.maxField := small
        obtain ⟨bytes, resolved⟩ := RunContext.pasteFrom_ok small tag copySlot pasteSlot
        exact ⟨some bytes, by simp [sourced, ClipboardSource.resolve, resolved]⟩

/-- A generator sees no position beyond the number of turns before it. -/
theorem Purpose.lt_of_mem_contextAfter {purpose : Purpose} {name : String} {turns : List (Turn σ)}
    {tagged : String × Nat} (isIn : tagged ∈ (purpose.contextAfter name (recordsOf turns)).tags) :
    tagged.2 < turns.length := by
  rw [contextAfter] at isIn
  split at isIn
  · simp at isIn
  · obtain ⟨record, found, -⟩ := mem_tagsOf.mp (show (tagged.1, tagged.2) ∈ tagsOf (recordsOf turns) from isIn)
    have isLess := (List.getElem?_eq_some_iff.mp found).1
    have calls : (callsOf (recordsOf turns)).length ≤ (recordsOf turns).length := List.length_filter_le ..
    have records : (recordsOf turns).length ≤ turns.length := List.length_filterMap_le ..
    omega

/-- A raw call answers when its turn comes, unless there were more turns than 80 bits can number. -/
theorem PlanStepOf.rawCall_answers {δ : Type} {step : PlanStepOf δ} {callData : Bytes} {raw : RawCall}
    (made : step.rawCall callData = .ok raw) {turns : List (Turn σ)} (few : turns.length ≤ 2 ^ 80)
    (purpose : Purpose) (name : String) (amount : Uint256) (world : World σ) :
    ∃ built, raw.generator.run purpose amount (purpose.contextAfter name (recordsOf turns)) world =
      (.ok built, world) := by
  have bound : Instruction.maxField = 2 ^ 80 - 1 := rfl
  -- it sees positions of its own level only
  have small : ∀ tagged ∈ (purpose.contextAfter name (recordsOf turns)).tags, tagged.2 ≤ Instruction.maxField := by
    intro tagged isTagged
    have := Purpose.lt_of_mem_contextAfter isTagged
    omega
  obtain ⟨clipboard, resolved⟩ := clipboardSeeing_ok made small
  exact ⟨_, by rw [run_rawCall made, resolved]; rfl⟩

/-! ## Levels that refuse to be built -/

namespace PlanLevel

variable {contracts : Contracts} {level : PlanLevel} {workflow : Workflow σ} {purpose : Purpose}

/-- Why a level is not built in a mode, as an error: a sent step has the tag of an earlier one, or a level
below is not built. -/
inductive Refuses (mode : RunMode) : PlanLevel → WorkflowError → Prop
  | tag {level : PlanLevel} {place : Nat} {step : PlanStep} {tag : String}
      (isStep : level.plan.steps[place]? = some step) (isSent : step.isSent mode = true)
      (tagged : step.tag = some tag)
      (again : tag ∈ (PlanDocument.tagsIn mode (level.plan.steps.take place)).map Prod.fst) :
      Refuses mode level (.duplicateTag level.name tag)
  | inside {level : PlanLevel} {place : Nat} {step : PlanStep} {inner : PlanDocument} {cause : WorkflowError}
      (isStep : level.plan.steps[place]? = some step) (takesPart : step.takesPart mode = true)
      (holds : step.workflow = some inner) (refused : Refuses mode (level.inside place step inner) cause) :
      Refuses mode level (.stepFailed level.name (level.inside place step inner).name cause)

/-- The error inside all wrapping is that of a tag that is given twice. -/
theorem Refuses.rootCause_eq {mode : RunMode} {e : WorkflowError} (refuses : level.Refuses mode e) :
    ∃ deep tag, Reaches mode level deep ∧ e.rootCause = .duplicateTag deep.name tag := by
  induction refuses with
  | @tag level place step tag => exact ⟨level, tag, .self, rfl⟩
  | inside isStep takesPart holds _ ih =>
    obtain ⟨deep, tag, reaches, root⟩ := ih
    exact ⟨deep, tag, .within isStep takesPart holds reaches, root⟩

/-- No level has more steps than 80 bits can number. -/
def IsShort (plan : PlanDocument) : Prop := ∀ inner ∈ plan.levels, inner.steps.length ≤ 2 ^ 80

/-- A turn that is given the tag of an earlier one refuses its level. -/
theorem refuses_of_tag (described : level.Describes contracts workflow) {turns : List (Turn σ)} {turn : Turn σ}
    {tag : String} (entries : (turns ++ [turn]).map Turn.entry <+: workflow.entries)
    (taken : ∀ other ∈ turns ++ [turn], other.Taken purpose)
    (mode : ∀ other ∈ turns ++ [turn], other.context.mode = purpose.mode) (emits : turn.emits = true)
    (tagged : turn.entry.options.tag = some tag) (again : tag ∈ (tagsOf (recordsOf turns)).map Prod.fst) :
    level.Refuses purpose.mode (.duplicateTag level.name tag) := by
  have isEntry : workflow.entries[turns.length]? = some turn.entry := by
    obtain ⟨behind, same⟩ := entries
    simp [← same]
  obtain ⟨step, isStep, options, -⟩ := described.entry_at isEntry
  have isMode := mode turn (by simp)
  have isSent : step.isSent purpose.mode = true := by
    rw [Turn.emits, Turn.isLeftOut, show _ = step.options from options, PlanStepOf.leavesOut_options, isMode,
      Bool.not_not] at emits
    exact emits
  have isTag : step.tag = some tag := by rwa [show _ = step.options from options] at tagged
  have first : turns.map Turn.entry <+: workflow.entries := ((List.prefix_append turns [turn]).map _).trans entries
  have follow := follow_of_prefix described first fun other isIn => mode other (List.mem_append_left _ isIn)
  rw [tagsOf_recordsOf follow fun other isIn => taken other (List.mem_append_left _ isIn)] at again
  exact .tag isStep isSent isTag again

/-- A build of a plan that fails was refused for a tag. -/
theorem refuses_of_buildFor_error (accepted : level.workflow contracts = .ok workflow)
    (short : IsShort level.plan) {amount : Uint256} {world after : World σ} {e : WorkflowError}
    (failed : workflow.buildFor purpose amount world = (.error e, after)) : level.Refuses purpose.mode e := by
  induction level using PlanLevel.induction generalizing workflow amount world after e with
  | level level ih =>
    have described := describes accepted
    cases workflow.buildFor_error failed with
    | tag entries taken mode emits tagged again =>
      rw [described.name]
      exact refuses_of_tag described entries taken mode emits tagged again
    | @run turns entry _ out _ last after cause isEntry few _ walked isIn ran =>
      obtain ⟨place, step, -, isStep, options, becomes⟩ := described.exists_step isEntry
      have takesPart : step.takesPart purpose.mode = true := by
        rwa [show _ = step.options from options, PlanStepOf.leavesOut_options, purpose.contextAfter_mode,
          Bool.not_eq_false'] at isIn
      generalize entry.generator = generator at becomes ran
      cases becomes with
      | call _ _ made =>
        have sameLength : level.plan.steps.length = workflow.entries.length := by
          rw [← described.entries.length_eq, List.length_zipIdx]
        have isShort := short level.plan level.plan.self_mem_levels
        have few : turns.length ≤ 2 ^ 80 := by omega
        obtain ⟨built, answers⟩ := PlanStepOf.rawCall_answers made few purpose workflow.name out last
        simp [answers] at ran
      | @plan inner below noData holds accepted =>
        rw [below.run_asGenerator] at ran
        split at ran
        case h_2 => simp at ran
        case h_1 cause' after' built =>
          obtain ⟨rfl, -⟩ : cause' = cause ∧ after' = after := by simpa using ran
          have isIn : step ∈ level.plan.steps := List.mem_of_getElem? isStep
          have short : IsShort inner := fun deep isDeep => short deep (PlanDocument.levels_subset isIn holds isDeep)
          have refused := ih place step inner isStep holds accepted short built
          have belowName : below.asGenerator.name = _ := (describes accepted).name
          rw [described.name, belowName]
          exact .inside isStep takesPart holds refused

end PlanLevel

end CallWeave
