import CallWeave.Proofs.Plan.Refusal

/-!
# References to earlier steps

A step may paste a word that an earlier step of its level returns, naming that step by its tag. The build
resolves the name in the middle of the walk, and what it writes is a position among the calls that are sent
in the end. Going forward both agree: the tags that a step sees are those of the sent steps before it, and
their positions do not change any more (`PlanLevel.lookup_tagsIn_iff`). So a reference stands for an earlier
call of the same level, or for nothing.
-/

namespace CallWeave

variable {σ : Type}

/-! ## Positions of tags -/

/-- A position in a filtered list with places splits the list at its place. -/
theorem filter_take_of_getElem?_filter_zipIdx {α : Type} {p : α → Bool} {list : List α} {start position place : Nat}
    {a : α} (found : ((list.zipIdx start).filter fun placed => p placed.1)[position]? = some (a, place)) :
    start ≤ place ∧ (list.take (place - start)).filter p =
      (((list.zipIdx start).filter fun placed => p placed.1).take position).map Prod.fst := by
  induction list generalizing start position with
  | nil => simp at found
  | cons first rest ih =>
    rw [List.zipIdx_cons] at found ⊢
    by_cases kept : p first = true
    · simp only [List.filter_cons, kept, ↓reduceIte] at found ⊢
      cases position with
      | zero =>
        obtain ⟨-, rfl⟩ : first = a ∧ start = place := by simpa using found
        simp
      | succ position =>
        obtain ⟨isLess, split⟩ := ih (by simpa using found)
        obtain ⟨more, rfl⟩ : ∃ more, place = start + 1 + more := ⟨place - (start + 1), by omega⟩
        have shift : start + 1 + more - start = more + 1 := by omega
        have shift' : start + 1 + more - (start + 1) = more := by omega
        rw [shift'] at split
        refine ⟨by omega, ?_⟩
        rw [shift, List.take_succ_cons, List.filter_cons, if_pos kept, split]
        simp
    · simp only [List.filter_cons, kept] at found ⊢
      obtain ⟨isLess, split⟩ := ih (by simpa using found)
      obtain ⟨more, rfl⟩ : ∃ more, place = start + 1 + more := ⟨place - (start + 1), by omega⟩
      have shift : start + 1 + more - start = more + 1 := by omega
      have shift' : start + 1 + more - (start + 1) = more := by omega
      rw [shift'] at split
      refine ⟨by omega, ?_⟩
      rw [shift, List.take_succ_cons, List.filter_cons, if_neg kept, split]
      simp

/-- The tags of the first steps come first. -/
theorem tagIndex_prefix {tags all : List (Option String)} (first : tags <+: all) : tagIndex tags <+: tagIndex all := by
  obtain ⟨rest, rfl⟩ := first
  rw [tagIndex, tagIndex, List.zipIdx_append, List.filterMap_append]
  exact List.prefix_append _ _

namespace PlanLevel

variable {level : PlanLevel} {mode : RunMode} {position place : Nat} {step : PlanStep}

/-- The sent steps before a sent step are those at smaller positions. -/
theorem filter_take_of_sent (isSent : (level.plan.sent mode)[position]? = some (step, place)) :
    (level.plan.steps.take place).filter (PlanStepOf.isSent mode) =
      ((level.plan.sent mode).take position).map Prod.fst :=
  (filter_take_of_getElem?_filter_zipIdx isSent).2

/-- What a sent step finds under a tag is the position of an earlier sent step with the tag. -/
theorem lookup_tagsIn_iff (nodup : ((PlanDocument.tagsIn mode level.plan.steps).map Prod.fst).Nodup)
    (isSent : (level.plan.sent mode)[position]? = some (step, place)) {tag : String} {source : Nat} :
    (PlanDocument.tagsIn mode (level.plan.steps.take place)).lookup tag = some source ↔
      source < position ∧ ∃ earlier, (level.plan.sent mode)[source]? = some earlier ∧ earlier.1.tag = some tag := by
  have first : PlanDocument.tagsIn mode (level.plan.steps.take place) <+: PlanDocument.tagsIn mode level.plan.steps :=
    tagIndex_prefix (((List.take_prefix _ _).filter _).map _)
  have nodup : ((PlanDocument.tagsIn mode (level.plan.steps.take place)).map Prod.fst).Nodup :=
    nodup.sublist (first.sublist.map _)
  rw [lookup_eq_some_iff_mem nodup, PlanDocument.tagsIn, mem_tagIndex, filter_take_of_sent isSent, List.map_map,
    List.getElem?_map, List.getElem?_take]
  by_cases isLess : source < position
  · simp [isLess, Option.map_eq_some_iff]
  · simp [isLess]

/-- What a reference of the sent step at a position comes to: with a slot to copy from and an earlier sent
step with the tag, one instruction that names it, and otherwise a clipboard that does nothing. -/
structure Resolves (mode : RunMode) (level : PlanLevel) (position : Nat) (tag : String) (copySlot : Option UInt64)
    (pasteSlot : UInt64) (encoded : Bytes) : Prop where
  pastes : ∀ copy ∈ copySlot, ∀ source < position, ∀ earlier, (level.plan.sent mode)[source]? = some earlier →
    earlier.1.tag = some tag → ∃ clipboard instruction, Clipboard.decode encoded = .ok clipboard ∧
      clipboard.kind = .single ∧ clipboard.value = 0 ∧ clipboard.instructions = [instruction] ∧
      instruction.source.toNat = source ∧ instruction.copy.toNat = 32 + 32 * copy.toNat ∧
      instruction.paste.toNat = 36 + 32 * pasteSlot.toNat
  nothing : (copySlot = none ∨ ∀ source < position, ∀ earlier, (level.plan.sent mode)[source]? = some earlier →
    earlier.1.tag ≠ some tag) → encoded = Clipboard.empty.toBytes

/-- In a build that goes forward, what a sent step resolves its reference to is an earlier call or nothing.
-/
theorem resolves_of_clipboardSeeing (forward : mode.isReversed = false)
    (nodup : ((PlanDocument.tagsIn mode level.plan.steps).map Prod.fst).Nodup)
    (short : level.plan.steps.length ≤ 2 ^ 80) (isSent : (level.plan.sent mode)[position]? = some (step, place))
    {tag : String} {copySlot : Option UInt64} {pasteSlot : UInt64}
    (refers : step.clipboard = some (.fromTag tag copySlot pasteSlot)) {clipboard : Option Bytes}
    (resolved : step.clipboardSeeing (PlanDocument.tagsSeen mode (level.plan.steps.take place)) = .ok clipboard) :
    ∃ encoded, clipboard = some encoded ∧ level.Resolves mode position tag copySlot pasteSlot encoded := by
  have lookup (source : Nat) : (PlanDocument.tagsIn mode (level.plan.steps.take place)).lookup tag = some source ↔
      source < position ∧ ∃ earlier, (level.plan.sent mode)[source]? = some earlier ∧ earlier.1.tag = some tag :=
    lookup_tagsIn_iff nodup isSent
  simp only [PlanDocument.tagsSeen, forward, Bool.false_eq_true, ↓reduceIte, PlanStepOf.clipboardSeeing_eq, refers,
    PlanClipboard.source, ClipboardSource.resolve, RunContext.pasteFrom, RunContext.ofTags] at resolved
  cases found : (PlanDocument.tagsIn mode (level.plan.steps.take place)).lookup tag with
  | none =>
    simp only [found, Except.ok.injEq] at resolved
    refine ⟨_, resolved.symm, ⟨fun copy _ source isLess earlier isThere tagged => ?_, fun _ => rfl⟩⟩
    rw [(lookup source).mpr ⟨isLess, earlier, isThere, tagged⟩] at found
    cases found
  | some source =>
    cases copySlot with
    | none =>
      simp only [found, Except.ok.injEq] at resolved
      exact ⟨_, resolved.symm, ⟨fun copy isCopy => (by cases isCopy), fun _ => rfl⟩⟩
    | some copy =>
      obtain ⟨isLess, earlier, isThere, tagged⟩ := (lookup source).mp found
      have isSmall : source ≤ Instruction.maxField := by
        have isPosition := (List.getElem?_eq_some_iff.mp isSent).1
        have few : (level.plan.sent mode).length ≤ level.plan.steps.zipIdx.length := List.length_filter_le ..
        rw [List.length_zipIdx] at few
        have bound : Instruction.maxField = 2 ^ 80 - 1 := rfl
        omega
      simp only [found, Clipboard.encodeSlot_ofSlots isSmall, Except.ok.injEq] at resolved
      refine ⟨_, resolved.symm, ⟨fun copy' isCopy source' isLess' earlier' isThere' tagged' => ?_, fun absent => ?_⟩⟩
      · obtain rfl := Option.some.inj isCopy
        have found' := (lookup source').mpr ⟨isLess', earlier', isThere', tagged'⟩
        obtain rfl := Option.some.inj (found.symm.trans found')
        have decoded := Clipboard.decode_toBytes (c := ⟨.single (.ofSlots source copy pasteSlot), 0, by
          simpa [ClipboardLayout.instructions] using Instruction.fits_ofSlots isSmall copy pasteSlot⟩) (by
            rw [Clipboard.instructions, ClipboardLayout.instructions, List.length_singleton]
            decide) []
        rw [List.append_nil] at decoded
        exact ⟨_, _, decoded, rfl, rfl, rfl, Instruction.toNat_ofSlots isSmall copy pasteSlot⟩
      · rcases absent with none | absent
        · cases none
        · exact absurd tagged (absent source isLess earlier isThere)

/-- In a plan that is accepted, references never fail, and each resolves to an earlier sent step of its own
level or to nothing: whatever the slots are, a build fails for a repeated tag only, and when it succeeds
going forward, every sent raw call of every level that it reaches has the clipboard that its reference
stands for. -/
theorem references_resolve {contracts : Contracts} {plan : PlanDocument} {cell : CellId} {workflow : Workflow σ}
    (accepted : plan.toWorkflow contracts cell = .ok workflow) (short : IsShort plan) (mode : RunMode)
    (amount : Uint256) (data : RunData) (world : World σ) :
    (∀ e after, workflow.build amount mode data world = (.error e, after) →
      ∃ name tag, e.rootCause = .duplicateTag name tag) ∧
    (mode.isReversed = false → ∀ out after, workflow.build amount mode data world = (.ok out, after) →
      ∀ deep, Reaches mode (.root plan cell) deep → ∃ build, after.cells deep.cell = some build ∧
        build.emittedSteps.length = (deep.plan.sent mode).length ∧
        ∀ position step place tag copySlot pasteSlot, (deep.plan.sent mode)[position]? = some (step, place) →
          step.workflow = none → step.clipboard = some (.fromTag tag copySlot pasteSlot) →
          ∃ made call encoded, build.emittedSteps[position]? = some (.own made) ∧ made.name = step.name ∧
            made.call = .ok call ∧ step.callData = some call.payload ∧ call.clipboard = some encoded ∧
            deep.Resolves mode position tag copySlot pasteSlot encoded) := by
  have accepted : (root plan cell).workflow contracts = .ok workflow := accepted
  refine ⟨fun e after failed => ?_, fun forward out after ok deep reaches => ?_⟩
  · obtain ⟨deep, tag, -, root⟩ := (refuses_of_buildFor_error accepted short (Workflow.build_error failed)).rootCause_eq
    exact ⟨deep.name, tag, root⟩
  · obtain ⟨built, -, ok⟩ := Workflow.build_ok ok
    obtain ⟨build, held, kept⟩ := stands_of_buildFor accepted ok deep reaches
    refine ⟨build, held, kept.emittedSteps.length_eq.symm, ?_⟩
    intro position step place tag copySlot pasteSlot isSent flat refers
    obtain ⟨isLess, found⟩ := List.getElem?_eq_some_iff.mp isSent
    have isLess' : position < build.emittedSteps.length := kept.emittedSteps.length_eq ▸ isLess
    have makes := kept.emittedSteps.get isLess isLess'
    simp only [List.get_eq_getElem, found] at makes
    generalize made : build.emittedSteps[position] = emitted at makes
    cases makes with
    | plan _ holds => simp [flat] at holds
    | @call callData amountOut clipboard data _ _ resolved =>
      obtain ⟨encoded, rfl, resolves⟩ := resolves_of_clipboardSeeing forward (kept.tags ▸ kept.tags_nodup)
        (short deep.plan reaches.mem_levels) isSent refers resolved
      exact ⟨_, _, encoded, by rw [List.getElem?_eq_getElem isLess', made], rfl, rfl, data, rfl, resolves⟩

/-- A plan that refers to a step of its own, and inside once more to the same tag, which is not there. -/
def referringPlan : PlanDocument :=
  let call (name : String) (tag : Option String) (clipboard : Option PlanClipboard) : PlanStep :=
    ⟨name, some [1], none, tag, false, false, false, none, none, clipboard, none⟩
  let paste : PlanClipboard := .fromTag "swap" (some 0) 1
  .mk none .advancedFarm
    [{ call "permit" (some "permit") none with skip := true }, call "swap" (some "swap") none,
      call "deposit" none paste,
      { call "inner" none none with
        callData := none, workflow := some (.mk none .advancedFarm [call "claim" none paste]) }]

theorem referringPlan_references_resolve :
    ∃ (workflow : Workflow Unit) (after : World Unit) (outer inner : Build),
      referringPlan.toWorkflow default [0] = .ok workflow ∧ IsShort referringPlan ∧
      workflow.build 7 .execute .empty (.start ()) = (.ok 7, after) ∧
      after.cells [0] = some outer ∧ after.cells [3, 0] = some inner ∧
      (∃ made call encoded clipboard instruction, outer.emittedSteps[1]? = some (.own made) ∧
        made.call = .ok call ∧ call.clipboard = some encoded ∧ Clipboard.decode encoded = .ok clipboard ∧
        clipboard.instructions = [instruction] ∧ instruction.source.toNat = 0 ∧ instruction.copy.toNat = 32 ∧
        instruction.paste.toNat = 68) ∧
      ∃ made call, inner.emittedSteps[0]? = some (.own made) ∧ made.call = .ok call ∧
        call.clipboard = some Clipboard.empty.toBytes := by
  have short : IsShort referringPlan := by
    show ∀ inner ∈ referringPlan.levels, inner.steps.length ≤ 2 ^ 80
    decide
  have accepted : referringPlan.toWorkflow default [0] = .ok (_ : Workflow Unit) := rfl
  obtain ⟨-, resolve⟩ := references_resolve accepted short .execute 7 .empty (.start ())
  have resolve := resolve rfl 7 _ rfl
  obtain ⟨outer, outerHeld, -, atOuter⟩ := resolve _ .self
  have below : referringPlan.steps[3]? = some _ := rfl
  obtain ⟨inner, innerHeld, -, atInner⟩ := resolve _ (.within below rfl rfl .self)
  obtain ⟨made, call, encoded, isThere, -, called, -, isClipboard, outerResolves⟩ := atOuter 1 _ 2 _ _ _ rfl rfl rfl
  obtain ⟨made', call', encoded', isThere', -, called', -, isClipboard', innerResolves⟩ :=
    atInner 0 _ 0 _ _ _ rfl rfl rfl
  refine ⟨_, _, outer, inner, accepted, short, rfl, outerHeld, innerHeld, ?_, made', call', isThere', called', ?_⟩
  · obtain ⟨clipboard, instruction, decoded, -, -, single, source, copy, paste⟩ :=
      outerResolves.pastes 0 rfl 0 (by decide) _ rfl rfl
    exact ⟨made, call, encoded, clipboard, instruction, isThere, called, isClipboard, decoded, single, source, copy,
      paste⟩
  · rw [isClipboard', innerResolves.nothing (.inr fun source isLess => absurd isLess (by omega))]

end PlanLevel

end CallWeave
