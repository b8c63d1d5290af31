import CallWeave.Generator.Adjustment
import CallWeave.Generator.RawCall
import CallWeave.Proofs.Sharing.Frame
import CallWeave.Proofs.Sharing.Locality

/-!
# Positions, tags and calls agree

The emitted steps, the tags and the prepared calls of a build are three lists that refer to each
other by position. After every build that succeeds, in whatever mode, all of them are those of one
list: the turns that emit, in the order of the plan (`Workflow.Ran.aligned`). A tag therefore stands
for the call of the entry that it was given to.

What a turn gives to the calls is said by what its generator answers (`Turn.Contributes`), not by
what the build keeps of the answer.

Going forward, the position that a generator sees is the position that its call takes
(`Walked.index_eq`); going backward positions are only known afterwards.
-/

namespace CallWeave

variable {σ : Type}

/-- The call in what a generator under a name answers: of bytes alone the call that has them as its
payload, and of a whole step the call that the step has, under the name that it has. -/
inductive StepOutput.Gives (name : String) : StepOutput → NamedCall → Prop
  | payload (bytes : Bytes) : Gives name (.payload bytes) ⟨name, ⟨none, bytes, none⟩⟩
  | prepared (call : PreparedCall) : Gives name (.prepared call) ⟨name, call⟩
  | step {made : Step} {call : PreparedCall} (has : made.call = .ok call) : Gives name (.step made) ⟨made.name, call⟩

/-- What a turn contributes to the calls of a workflow. A generator that answers by itself gives the
call in its answer; for a workflow it is the call into its entry point that the workflow now has. -/
inductive Turn.Contributes (workflow : Workflow σ) (cells : Cells) (turn : Turn σ) : NamedCall → Prop
  | own {name : String} {run : StepRun σ} {output : StepOutput} {outside : σ} {named : NamedCall}
      (isOwn : turn.entry.generator = .leaf name run)
      (answers : run turn.amount turn.context turn.before.outside = (.ok output, outside))
      (gives : output.Gives name named) : Contributes workflow cells turn named
  | nested {inner holder : Workflow σ} {call : OutboundCall}
      (isInner : turn.entry.generator = inner.asGenerator) (isHolder : workflow.holder? inner.cell = some holder)
      (finalized : holder.finalize cells = .ok call) :
      Contributes workflow cells turn
        ⟨inner.name, ⟨some call.target, call.selector ++ call.arguments, none⟩⟩

/-- Whether a turn, with the step that it made, stands behind a prepared call. -/
def Turn.Prepares (nested : NestedCalls) (turn : Turn σ) (named : NamedCall) : Prop :=
  ∃ step, turn.step? = some step ∧ step.Prepares nested named

/-- What is observed of a workflow agrees with the turns of a build. -/
structure Workflow.Aligned (workflow : Workflow σ) (cells : Cells) (turns : List (Turn σ)) : Prop where
  /-- The emitted steps are those that the emitting turns made, in the order of the plan. -/
  steps : (workflow.currentOrEmpty cells).emittedSteps.map some = (emitting turns).map Turn.step?
  /-- The prepared calls are what these turns contribute, when there is one and each contributes a
  call. -/
  calls : ∀ prepared, workflow.preparedCalls cells = .ok prepared ↔
    emitting turns ≠ [] ∧ List.Forall₂ (Turn.Contributes workflow cells) (emitting turns) prepared
  /-- When one cell is one workflow, a nested workflow stands in its own cell. -/
  holder : workflow.Coherent → ∀ turn ∈ turns, ∀ inner : Workflow σ,
    turn.entry.generator = inner.asGenerator → workflow.holder? inner.cell = some inner
  length : workflow.length cells = (emitting turns).length
  /-- A tag stands for a position exactly if the entry that emits there was given the tag. -/
  tags : ∀ tag position, (tag, position) ∈ workflow.tags cells ↔
    ∃ turn, (emitting turns)[position]? = some turn ∧ turn.entry.options.tag = some tag
  findTag : ∀ tag position, workflow.findTag cells tag = .ok position ↔
    ∃ turn, (emitting turns)[position]? = some turn ∧ turn.entry.options.tag = some tag
  tags_lt : ∀ tag position, (tag, position) ∈ workflow.tags cells → position < workflow.length cells
  tags_distinct : ∀ tag tag' position position', (tag, position) ∈ workflow.tags cells →
    (tag', position') ∈ workflow.tags cells → (tag = tag' ↔ position = position')
  /-- A tag that was given to left out and local entries only is not there. -/
  tags_absent : ∀ tag, (∀ turn ∈ turns, turn.entry.options.tag = some tag → turn.emits = false) →
    ∀ position, (tag, position) ∉ workflow.tags cells
  /-- The call at the position of a tag is that of an entry with the tag. -/
  found : ∀ tag position prepared, workflow.findTag cells tag = .ok position →
    workflow.preparedCalls cells = .ok prepared →
    ∃ turn named, (emitting turns)[position]? = some turn ∧ turn.entry.options.tag = some tag ∧
      prepared[position]? = some named ∧ turn.Contributes workflow cells named

/-! ## What a turn contributes -/

/-- A step keeps the call of the answer that it was made of. -/
theorem StepOutput.prepares_iff {output : StepOutput} {name : String} {amount : Uint256} {nested : NestedCalls}
    {named : NamedCall} :
    (BuiltStep.own (output.toStep name amount)).Prepares nested named ↔ output.Gives name named := by
  obtain ⟨step, call⟩ := named
  constructor
  · rintro ⟨rfl, has⟩
    cases output with
    | payload bytes =>
      obtain rfl := Except.ok.inj has
      exact .payload bytes
    | prepared given =>
      obtain rfl := Except.ok.inj has
      exact .prepared given
    | step made => exact .step has
  · rintro (bytes | given | has)
    · exact ⟨rfl, rfl⟩
    · exact ⟨rfl, rfl⟩
    · exact ⟨rfl, has⟩

section Contributes

variable {workflow : Workflow σ} {cells : Cells} {purpose : Purpose} {turn : Turn σ} {named : NamedCall}

/-- Behind the call of a generator that answers by itself stands its answer. -/
theorem Turn.Taken.prepares_iff_of_leaf (taken : turn.Taken purpose) (emits : turn.emits = true) {name : String}
    {run : StepRun σ} (isOwn : turn.entry.generator = .leaf name run) :
    turn.Prepares (workflow.nestedCalls cells) named ↔ turn.Contributes workflow cells named := by
  obtain ⟨step, made⟩ := taken.step_of_emits emits
  cases taken with
  | leftOut => cases made
  | @made entry amount context before after step isIn ran =>
    rw [show entry.generator = .leaf name run from isOwn, Generator.run] at ran
    split at ran
    · cases ran
    case h_2 output outside answers =>
      obtain ⟨rfl, rfl⟩ : .own (output.toStep name amount) = step ∧ ⟨before.cells, outside⟩ = after := by
        simpa using ran
      simp only [Turn.Prepares, Option.some.injEq, exists_eq_left', StepOutput.prepares_iff]
      constructor
      · exact .own isOwn answers
      · rintro (⟨isOwn', answers', gives⟩ | ⟨isInner, -, -⟩)
        · obtain ⟨rfl, rfl⟩ := Generator.leaf.inj (isOwn.symm.trans isOwn')
          obtain ⟨rfl, -⟩ : output = _ ∧ outside = _ := by simpa using answers.symm.trans answers'
          exact gives
        · cases isOwn.symm.trans isInner

/-- Behind the call of a workflow stands what is finalized of the workflow in its cell. -/
theorem Turn.Taken.prepares_iff_of_nested (taken : turn.Taken purpose) (emits : turn.emits = true)
    (isEntry : turn.entry ∈ workflow.entries) {inner : Workflow σ}
    (isInner : turn.entry.generator = inner.asGenerator) :
    turn.Prepares (workflow.nestedCalls cells) named ↔ turn.Contributes workflow cells named := by
  obtain ⟨step, made⟩ := taken.step_of_emits emits
  obtain ⟨simulated, -, rfl⟩ := taken.simulated isInner made
  obtain ⟨holder, isHolder⟩ := Workflow.exists_holder isEntry isInner
  have called : workflow.nestedCalls cells inner.cell = holder.prepare cells := by
    rw [Workflow.nestedCalls_eq_holder, isHolder]
    rfl
  simp only [Turn.Prepares, made, Option.some.injEq, exists_eq_left', BuiltStep.Prepares, BuiltStep.call, called,
    BuiltStep.name, Workflow.prepare]
  obtain ⟨step, call⟩ := named
  constructor
  · rintro ⟨rfl, prepared⟩
    cases finalized : holder.finalize cells with
    | error e => simp [finalized, Except.map] at prepared
    | ok outbound =>
      obtain rfl : outbound.prepared = call := by simpa [finalized, Except.map] using prepared
      exact .nested isInner isHolder finalized
  · rintro (⟨isOwn, -, -⟩ | ⟨isInner', isHolder', finalized⟩)
    · cases isInner.symm.trans isOwn
    · obtain rfl := Workflow.asGenerator_injective (isInner.symm.trans isInner')
      obtain rfl := Option.some.inj (isHolder.symm.trans isHolder')
      rw [finalized]
      exact ⟨rfl, rfl⟩

/-- What stands behind the call of an entry is what its turn contributes. -/
theorem Turn.Taken.prepares_iff (taken : turn.Taken purpose) (emits : turn.emits = true)
    (isEntry : turn.entry ∈ workflow.entries) :
    turn.Prepares (workflow.nestedCalls cells) named ↔ turn.Contributes workflow cells named := by
  cases generator : turn.entry.generator with
  | leaf name run => exact taken.prepares_iff_of_leaf emits generator
  | nested cell name encoder entries =>
    have isInner : turn.entry.generator = Workflow.asGenerator ⟨cell, name, encoder, entries⟩ := generator
    exact taken.prepares_iff_of_nested emits isEntry isInner

end Contributes

/-! ## Emitting turns -/

/-- Lists are related by either of two relations that agree on the members of the first. -/
theorem forall₂_congr_of_mem {α β : Type} {one other : α → β → Prop} {left : List α} {right : List β}
    (same : ∀ a ∈ left, ∀ b, one a b ↔ other a b) :
    List.Forall₂ one left right ↔ List.Forall₂ other left right := by
  induction left generalizing right with
  | nil => cases right <;> simp
  | cons a left ih =>
    cases right with
    | nil => simp
    | cons b right =>
      rw [List.forall₂_cons, List.forall₂_cons, same a List.mem_cons_self,
        ih fun later isIn => same later (List.mem_cons_of_mem _ isIn)]

/-- Every emitting turn has a record. -/
theorem map_record?_emitting {purpose : Purpose} {turns : List (Turn σ)}
    (taken : ∀ turn ∈ turns, turn.Taken purpose) :
    (emitting turns).map Turn.record? = (recordsOf (emitting turns)).map some := by
  have all : ∀ turn ∈ emitting turns, ∃ record, turn.record? = some record := by
    intro turn isIn
    obtain ⟨isIn, emits⟩ := List.mem_filter.mp isIn
    obtain ⟨step, made⟩ := (taken turn isIn).step_of_emits emits
    exact ⟨_, by rw [Turn.record?, made, Option.map_some]⟩
  generalize emitting turns = emitted at all ⊢
  induction emitted with
  | nil => rfl
  | cons turn rest ih =>
    obtain ⟨record, recorded⟩ := all turn List.mem_cons_self
    rw [recordsOf_cons, List.map_cons, ih fun other isIn => all other (List.mem_cons_of_mem _ isIn), recorded]
    rfl

/-- The call at a position is recorded by the turn that emits there. -/
theorem callsOf_getElem?_eq_some_iff {purpose : Purpose} {turns : List (Turn σ)}
    (taken : ∀ turn ∈ turns, turn.Taken purpose) {position : Nat} {record : Recorded} :
    (callsOf (recordsOf turns))[position]? = some record ↔
      ∃ turn, (emitting turns)[position]? = some turn ∧ turn.record? = some record := by
  have same := congrArg (·[position]?) (map_record?_emitting taken)
  simp only [List.getElem?_map] at same
  rw [callsOf_recordsOf taken, ← Option.map_eq_some_iff, same]
  cases (recordsOf (emitting turns))[position]? <;> simp

/-- Going forward, a generator sees the position that its call takes. -/
theorem Walked.index_eq {purpose : Purpose} (forward : purpose.mode.isReversed = false) {name : String}
    {past : List Recorded} {amount out : Uint256} {world last : World σ} {turns : List (Turn σ)}
    (walked : Walked purpose name past amount world turns out last) {position : Nat} {turn : Turn σ}
    (emitted : (emitting turns)[position]? = some turn) :
    turn.context.index = (callsOf past).length + position := by
  induction walked generalizing position with
  | done => simp [emitting] at emitted
  | @next past first rest _ _ taken sees _ ih =>
    -- the first turn records one call if it emits, and none otherwise
    have grown : callsOf (recordsOf [first]) = recordsOf (emitting [first]) :=
      callsOf_recordsOf fun other isIn => (List.mem_singleton.mp isIn) ▸ taken
    rw [recordsOf_cons, recordsOf_nil, List.append_nil] at grown
    cases emits : first.emits with
    | false =>
      have none : callsOf first.record?.toList = [] := by
        rw [grown, emitting, List.filter_singleton, emits]
        rfl
      simp only [emitting, List.filter_cons, emits, Bool.false_eq_true, ↓reduceIte] at emitted
      have later := ih emitted
      rwa [callsOf_append, none, List.append_nil] at later
    | true =>
      simp only [emitting, List.filter_cons, emits, ↓reduceIte] at emitted
      cases position with
      | zero =>
        obtain rfl : first = turn := by simpa using emitted
        rw [sees]
        simp [Purpose.contextAfter, forward]
      | succ position =>
        have one : (callsOf first.record?.toList).length = 1 := by
          obtain ⟨step, made⟩ := taken.step_of_emits emits
          rw [grown, emitting, List.filter_singleton, emits]
          simp [recordsOf, Turn.record?, made]
        have emitted : (emitting rest)[position]? = some turn := by simpa [emitting] using emitted
        rw [ih emitted, callsOf_append, List.length_append, one]
        omega

/-! ## Alignment -/

namespace Workflow

variable {workflow : Workflow σ} {purpose : Purpose} {amount : Uint256} {world after : World σ} {built : Build}
  {turns : List (Turn σ)}

/-- The emitted steps of a build are those of its emitting turns. -/
theorem Ran.emittedSteps (ran : workflow.Ran purpose amount world turns built after) :
    built.emittedSteps.map some = (emitting turns).map Turn.step? := by
  have records := congrArg (List.map (Option.map Prod.fst)) (map_record?_emitting ran.taken)
  rw [ran.holds.emittedSteps, callsOf_recordsOf ran.taken]
  simp only [List.map_map] at records ⊢
  rw [show Option.map Prod.fst ∘ some = (some ∘ Prod.fst : Recorded → Option BuiltStep) from rfl] at records
  rw [← records]
  refine List.map_congr_left fun turn _ => ?_
  cases made : turn.step? <;> simp [Turn.record?, made]

/-- The calls of a build are prepared by its emitting turns. -/
theorem Ran.forall₂_prepares (ran : workflow.Ran purpose amount world turns built after) (nested : NestedCalls)
    {prepared : List NamedCall} :
    List.Forall₂ (BuiltStep.Prepares nested) built.emittedSteps prepared ↔
      List.Forall₂ (Turn.Prepares nested) (emitting turns) prepared := by
  have some : List.Forall₂ (fun step? named => ∃ step, step? = some step ∧ step.Prepares nested named)
      (built.emittedSteps.map some) prepared ↔
      List.Forall₂ (BuiltStep.Prepares nested) built.emittedSteps prepared := by
    rw [List.forall₂_map_left_iff]
    simp
  rw [← some, ran.emittedSteps, List.forall₂_map_left_iff]
  rfl

/-- A build is as long as it has emitting turns. -/
theorem Ran.length_eq (ran : workflow.Ran purpose amount world turns built after) :
    workflow.length after.cells = (emitting turns).length := by
  rw [Workflow.length, ran.currentOrEmpty, ran.holds.emitted_length, callsOf_recordsOf ran.taken]
  simpa using congrArg List.length (map_record?_emitting ran.taken).symm

/-- A tag stands for a position exactly if the turn that emits there is that of an entry with the
tag. -/
theorem Ran.mem_tags_iff (ran : workflow.Ran purpose amount world turns built after) {tag : String}
    {position : Nat} : (tag, position) ∈ workflow.tags after.cells ↔
      ∃ turn, (emitting turns)[position]? = some turn ∧ turn.entry.options.tag = some tag := by
  rw [Workflow.tags, ran.currentOrEmpty, ran.holds.tags, mem_tagsOf]
  constructor
  · rintro ⟨record, called, tagged⟩
    obtain ⟨turn, emitted, recorded⟩ := (callsOf_getElem?_eq_some_iff ran.taken).mp called
    obtain ⟨step, -, rfl⟩ := Option.map_eq_some_iff.mp recorded
    exact ⟨turn, emitted, tagged⟩
  · rintro ⟨turn, emitted, tagged⟩
    obtain ⟨isIn, emits⟩ := List.mem_filter.mp (List.mem_of_getElem? emitted)
    obtain ⟨step, made⟩ := (ran.taken turn isIn).step_of_emits emits
    exact ⟨(step, turn.entry.options), (callsOf_getElem?_eq_some_iff ran.taken).mpr
      ⟨turn, emitted, by rw [Turn.record?, made, Option.map_some]⟩, tagged⟩

/-- Finding a tag is having it: no tag is registered twice. -/
theorem Ran.findTag_ok_iff (ran : workflow.Ran purpose amount world turns built after) {tag : String}
    {position : Nat} :
    workflow.findTag after.cells tag = .ok position ↔ (tag, position) ∈ workflow.tags after.cells := by
  have nodup : ((workflow.tags after.cells).map Prod.fst).Nodup := by
    rw [Workflow.tags, ran.currentOrEmpty]
    exact ran.holds.tags_nodup
  rw [← lookup_eq_some_iff_mem nodup, Workflow.findTag]
  cases (workflow.tags after.cells).lookup tag <;> simp

/-- The prepared calls are those of the emitting turns, when there is one and each has its call. -/
theorem Ran.preparedCalls_ok_iff (ran : workflow.Ran purpose amount world turns built after)
    {prepared : List NamedCall} : workflow.preparedCalls after.cells = .ok prepared ↔
      emitting turns ≠ [] ∧
        List.Forall₂ (Turn.Prepares (workflow.nestedCalls after.cells)) (emitting turns) prepared := by
  have nonempty : built.emitted ≠ [] ↔ emitting turns ≠ [] := by
    rw [← List.length_pos_iff, ← List.length_pos_iff, ← ran.length_eq, Workflow.length, ran.currentOrEmpty]
  rw [preparedCalls, Workflow.current, ran.kept, ← ran.forall₂_prepares, ← nonempty]
  exact Build.calls_ok_iff

/-- The prepared calls are what the emitting turns contribute. -/
theorem Ran.preparedCalls_ok_iff_contributes (ran : workflow.Ran purpose amount world turns built after)
    {prepared : List NamedCall} : workflow.preparedCalls after.cells = .ok prepared ↔
      emitting turns ≠ [] ∧ List.Forall₂ (Turn.Contributes workflow after.cells) (emitting turns) prepared := by
  rw [ran.preparedCalls_ok_iff]
  refine and_congr_right fun _ => forall₂_congr_of_mem fun turn isIn named => ?_
  obtain ⟨isTurn, emits⟩ := List.mem_filter.mp isIn
  exact (ran.taken turn isTurn).prepares_iff emits (ran.entries ▸ List.mem_map_of_mem isTurn)

/-- After a build, what is observed agrees with its turns. -/
theorem Ran.aligned (ran : workflow.Ran purpose amount world turns built after) :
    workflow.Aligned after.cells turns := by
  refine ⟨?_, fun _ => ran.preparedCalls_ok_iff_contributes, ?_, ran.length_eq, fun _ _ => ran.mem_tags_iff,
    fun _ _ => ran.findTag_ok_iff.trans ran.mem_tags_iff, ?_, ?_, ?_, ?_⟩
  · rw [ran.currentOrEmpty]
    exact ran.emittedSteps
  · intro coherent turn isTurn inner isInner
    exact coherent.holder_eq (ran.entries ▸ List.mem_map_of_mem isTurn) isInner
  · intro tag position isIn
    obtain ⟨turn, emitted, -⟩ := ran.mem_tags_iff.mp isIn
    rw [ran.length_eq]
    exact (List.getElem?_eq_some_iff.mp emitted).1
  · intro tag tag' position position' isIn isIn'
    obtain ⟨turn, emitted, tagged⟩ := ran.mem_tags_iff.mp isIn
    obtain ⟨turn', emitted', tagged'⟩ := ran.mem_tags_iff.mp isIn'
    constructor
    · rintro rfl
      exact Except.ok.inj ((ran.findTag_ok_iff.mpr isIn).symm.trans (ran.findTag_ok_iff.mpr isIn'))
    · rintro rfl
      obtain rfl := Option.some.inj (emitted.symm.trans emitted')
      exact Option.some.inj (tagged.symm.trans tagged')
  · intro tag silent position isIn
    obtain ⟨turn, emitted, tagged⟩ := ran.mem_tags_iff.mp isIn
    obtain ⟨isTurn, emits⟩ := List.mem_filter.mp (List.mem_of_getElem? emitted)
    rw [silent turn isTurn tagged] at emits
    cases emits
  · intro tag position prepared found ok
    obtain ⟨turn, emitted, tagged⟩ := ran.mem_tags_iff.mp (ran.findTag_ok_iff.mp found)
    obtain ⟨-, all⟩ := ran.preparedCalls_ok_iff_contributes.mp ok
    obtain ⟨isLess, rfl⟩ := List.getElem?_eq_some_iff.mp emitted
    have isLess' : position < prepared.length := all.length_eq ▸ isLess
    exact ⟨_, prepared[position], emitted, tagged, List.getElem?_eq_getElem isLess', all.get isLess isLess'⟩

/-- After every build that succeeds, the emitted steps, the tags and the calls are those of the
turns that emit, in the order of the plan; going forward, each generator saw the position that its
call takes. -/
theorem build_aligned {mode : RunMode} {data : RunData} {out : Uint256}
    (ok : workflow.build amount mode data world = (.ok out, after)) :
    ∃ turns built, workflow.Ran ⟨mode, data⟩ amount world turns built after ∧ built.amountOut = out ∧
      workflow.Aligned after.cells turns ∧
      (mode.isReversed = false → ∀ (position : Nat) (turn : Turn σ), (emitting turns)[position]? = some turn →
        turn.context.index = position) := by
  obtain ⟨built, amountOut, ok⟩ := build_ok ok
  obtain ⟨turns, ran⟩ := buildFor_ok ok
  refine ⟨turns, built, ran, amountOut, ran.aligned, fun forward position turn emitted => ?_⟩
  obtain ⟨last, walked, -⟩ := ran.walked
  simp only [Purpose.inWalkOrder, forward, Bool.false_eq_true, ↓reduceIte] at walked
  have := walked.index_eq forward emitted
  simpa [callsOf] using this

/-- A plan with entries that are left out, local and nested, some of them under one tag, and one for
each form that an answer can have. -/
def mixedPlan : Workflow Unit :=
  let inner : Workflow Unit := ⟨[1], "inner", ⟨.farm, ⟨9⟩⟩, [⟨(RawCall.plain "swap" [1]).generator, .plain⟩]⟩
  ⟨[0], "mixed", ⟨.farm, default⟩,
    [⟨(RawCall.plain "permit" [2]).generator, ⟨some "permit", .never, false, true⟩⟩,
      ⟨(Adjustment.add "claim" 5).generator, ⟨some "claim", .never, true, false⟩⟩,
      ⟨inner.asGenerator, ⟨some "swap", .never, false, false⟩⟩,
      ⟨(RawCall.plain "unused" [3]).generator, ⟨some "deposit", .always, false, false⟩⟩,
      ⟨(RawCall.mk "deposit" (some ⟨7⟩) [4] (.literal [5, 6]) none none).generator,
        ⟨some "deposit", .never, false, false⟩⟩,
      ⟨.pure "bytes" fun _ _ => .ok (.payload [7, 8]), .plain⟩,
      ⟨.pure "call" fun _ _ => .ok (.prepared ⟨some ⟨3⟩, [9], some []⟩), .plain⟩]⟩

theorem mixedPlan_aligned :
    ∃ turns built after, mixedPlan.build 7 .execute .empty (.start ()) = (.ok 12, after) ∧
      mixedPlan.Ran ⟨.execute, .empty⟩ 7 (.start ()) turns built after ∧ built.amountOut = 12 ∧
      mixedPlan.Aligned after.cells turns ∧
      (∀ (position : Nat) (turn : Turn Unit), (emitting turns)[position]? = some turn →
        turn.context.index = position) ∧
      mixedPlan.tags after.cells = [("permit", 0), ("swap", 1), ("deposit", 2)] ∧
      mixedPlan.preparedCalls after.cells = .ok
        [⟨"permit", ⟨none, [2], none⟩⟩,
          ⟨"inner", ⟨some ⟨9⟩, [0x30, 0x0d, 0xd6, 0xcf] ++ List.replicate 31 0 ++ [32] ++ List.replicate 31 0 ++ [1] ++
            List.replicate 31 0 ++ [32] ++ List.replicate 31 0 ++ [1] ++ [1] ++ List.replicate 31 0, none⟩⟩,
          ⟨"deposit", ⟨some ⟨7⟩, [4], some [5, 6]⟩⟩, ⟨"bytes", ⟨none, [7, 8], none⟩⟩,
          ⟨"call", ⟨some ⟨3⟩, [9], some []⟩⟩] := by
  have ok : mixedPlan.build 7 .execute .empty (.start ()) =
      (.ok 12, (mixedPlan.build 7 .execute .empty (.start ())).2) := rfl
  obtain ⟨turns, built, ran, amountOut, aligned, index⟩ := build_aligned ok
  exact ⟨turns, built, _, ok, ran, amountOut, aligned, index rfl, by decide, by rfl⟩

end Workflow

end CallWeave
