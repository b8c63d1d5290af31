import CallWeave.Generator.Adjustment
import CallWeave.Proofs.Build.Alignment
import CallWeave.Proofs.Sharing.Frame
import CallWeave.Proofs.Sharing.Locality

/-!
# The call of a nested workflow

A nested workflow is built when its turn comes, and its amount and its value are those of that
build. Its call is read from its cell when the outer workflow is finalized. By then a later turn may
have built it again, or a workflow in it, and the call is the one that the last such turn left
(`Workflow.Ran.encode_eq_lastRebuild`). It is the call that was simulated exactly if that turn left
the same calldata, and in particular when no later turn shares a workflow with it.

`sharedPlan` holds one workflow twice, around a step that changes the amount. Both of its calls are
those of the second build, and the first was simulated with another one.
-/

namespace CallWeave

variable {σ : Type}

/-- The turn builds a workflow, or one that it holds, once more. -/
def Turn.Rebuilds (inner : Workflow σ) (turn : Turn σ) : Prop :=
  turn.step?.isSome = true ∧ ∃ member ∈ inner.family, member.cell ∈ turn.entry.generator.cells

/-- The last turn of a walk that builds a workflow, or one that it holds. -/
def LastRebuild (inner : Workflow σ) (walk : List (Turn σ)) (last : Turn σ) : Prop :=
  last.Rebuilds inner ∧
    ∃ passed rest, walk = passed ++ last :: rest ∧ ∀ later ∈ rest, ¬ later.Rebuilds inner

/-- Where there is a rebuild, there is a last one. -/
theorem exists_lastRebuild {inner : Workflow σ} {walk : List (Turn σ)}
    (rebuilt : ∃ turn ∈ walk, turn.Rebuilds inner) : ∃ last, LastRebuild inner walk last := by
  induction walk with
  | nil =>
    obtain ⟨turn, isIn, -⟩ := rebuilt
    cases isIn
  | cons first rest ih =>
    by_cases later : ∃ turn ∈ rest, turn.Rebuilds inner
    · obtain ⟨last, again, passed, behind, rfl, silent⟩ := ih later
      exact ⟨last, again, first :: passed, behind, rfl, silent⟩
    · obtain ⟨turn, isIn, again⟩ := rebuilt
      rcases List.mem_cons.mp isIn with rfl | isLater
      · exact ⟨turn, again, [], rest, rfl, fun other isOther rebuilds => later ⟨other, isOther, rebuilds⟩⟩
      · exact absurd ⟨turn, isLater, again⟩ later

/-- Behind each of its turns, a walk goes on from what the turn left. -/
theorem Walked.behind {purpose : Purpose} {name : String} {past : List Recorded} {amount out : Uint256}
    {world final : World σ} {passed rest : List (Turn σ)} {last : Turn σ}
    (walked : Walked purpose name past amount world (passed ++ last :: rest) out final) :
    ∃ before, Walked purpose name before last.amountOut last.after rest out final := by
  induction passed generalizing past amount world with
  | nil =>
    cases walked with
    | next _ _ walked => exact ⟨_, walked⟩
  | cons first passed ih =>
    cases walked with
    | next _ _ walked => exact ih walked

namespace Workflow

variable {workflow inner : Workflow σ} {amount : Uint256} {world after : World σ}

/-- What a turn leaves in a cell is there after the build, when the cell belongs to no other turn. -/
theorem Ran.cells_eq {purpose : Purpose} {built : Build} {before behind : List (Turn σ)} {turn : Turn σ}
    (ran : workflow.Ran purpose amount world (before ++ turn :: behind) built after) {cell : CellId}
    (own : cell ≠ workflow.cell)
    (apart : ∀ other ∈ before ++ behind, cell ∉ other.entry.generator.cells) :
    after.cells cell = turn.after.cells cell := by
  obtain ⟨final, walked, rfl⟩ := ran.walked
  have order : ∃ passed rest, purpose.inWalkOrder (before ++ turn :: behind) = passed ++ turn :: rest ∧
      rest ⊆ before ++ behind := by
    rw [Purpose.inWalkOrder]
    split
    · exact ⟨behind.reverse, before.reverse, by simp, fun other isIn => by simp_all⟩
    · exact ⟨before, behind, rfl, List.subset_append_right _ _⟩
  obtain ⟨passed, rest, order, isSub⟩ := order
  rw [order] at walked
  obtain ⟨past, walked⟩ := walked.behind
  have kept := World.SameOutside.store (List.mem_singleton_self workflow.cell) final built cell (by simpa using own)
  rw [kept]
  exact walked.cells_eq fun other isOther _ => apart other (isSub isOther)

/-- The calldata of a nested workflow after a build is what the last turn that rebuilt it left. -/
theorem Ran.encode_eq_lastRebuild {purpose : Purpose} {turns : List (Turn σ)} {built : Build}
    (ran : workflow.Ran purpose amount world turns built after) (coherent : workflow.Coherent)
    (isIn : ∀ member ∈ inner.family, member ∈ workflow.nested) {last : Turn σ}
    (isLast : LastRebuild inner (purpose.inWalkOrder turns) last) :
    inner.encode after.cells = inner.encode last.after.cells := by
  obtain ⟨final, walked, rfl⟩ := ran.walked
  obtain ⟨-, passed, rest, order, silent⟩ := isLast
  rw [order] at walked
  obtain ⟨past, walked⟩ := walked.behind
  -- what the inner call reads is changed neither by the turns behind nor by keeping the outer build
  refine encode_congr fun member isMember => ?_
  have apart := coherent.cell_ne_of_mem_nested (isIn member isMember)
  have kept := World.SameOutside.store (List.mem_singleton_self workflow.cell) final built member.cell
    (by simpa using apart)
  rw [kept]
  exact walked.cells_eq fun later isLater made isCell =>
    silent later isLater ⟨made, member, isMember, isCell⟩

/-- What the emitted step of a nested workflow is after a build, in terms of the turns. -/
structure NestedCall (workflow inner : Workflow σ) (purpose : Purpose) (turns : List (Turn σ)) (cells : Cells)
    (position : Nat) (turn : Turn σ) : Prop where
  /-- The amount passed on and the value are those of the build that its own turn made. -/
  simulated : ∃ simulated, inner.buildFor purpose turn.amount turn.before = (.ok simulated, turn.after) ∧
    turn.amountOut = simulated.amountOut ∧ turn.step?.bind BuiltStep.value = some simulated.value
  rebuilt : ∃ last, LastRebuild inner (purpose.inWalkOrder turns) last
  /-- The payload is the calldata that the last rebuild left; it is that of the own build exactly if
  both agree. -/
  payload : ∀ last, LastRebuild inner (purpose.inWalkOrder turns) last →
    ∀ call, workflow.finalize cells = .ok call →
      ∃ prepared named, workflow.encoder.encodeArguments prepared call.value = .ok call.arguments ∧
        prepared[position]? = some named ∧ inner.encode last.after.cells = .ok named.call.payload ∧
        (inner.encode turn.after.cells = .ok named.call.payload ↔
          inner.encode turn.after.cells = inner.encode last.after.cells)

section Turns

variable {purpose : Purpose} {turns : List (Turn σ)} {built : Build} {position : Nat} {turn : Turn σ}

/-- What the workflow of a turn holds, the outer workflow holds. -/
theorem Ran.family_subset_nested (ran : workflow.Ran purpose amount world turns built after)
    (isTurn : turn ∈ turns) (isInner : turn.entry.generator = inner.asGenerator) :
    ∀ member ∈ inner.family, member ∈ workflow.nested := by
  intro member isMember
  have isEntry : turn.entry ∈ workflow.entries := ran.entries ▸ List.mem_map_of_mem isTurn
  exact mem_nested_of_mem_entries isEntry (by rwa [isInner, workflows_asGenerator])

/-- The call at the position of a nested workflow is the workflow's own current call. -/
theorem Ran.prepare_of_emitted (ran : workflow.Ran purpose amount world turns built after)
    (coherent : workflow.Coherent) (emitted : (emitting turns)[position]? = some turn)
    (isInner : turn.entry.generator = inner.asGenerator) {prepared : List NamedCall}
    (called : workflow.preparedCalls after.cells = .ok prepared) :
    ∃ named, prepared[position]? = some named ∧ inner.prepare after.cells = .ok named.call := by
  obtain ⟨isTurn, emits⟩ := List.mem_filter.mp (List.mem_of_getElem? emitted)
  have isEntry : turn.entry ∈ workflow.entries := ran.entries ▸ List.mem_map_of_mem isTurn
  obtain ⟨step, made⟩ := (ran.taken turn isTurn).step_of_emits emits
  obtain ⟨simulated, -, rfl⟩ := (ran.taken turn isTurn).simulated isInner made
  obtain ⟨-, all⟩ := ran.preparedCalls_ok_iff.mp called
  obtain ⟨isLess, rfl⟩ := List.getElem?_eq_some_iff.mp emitted
  have isLess' : position < prepared.length := all.length_eq ▸ isLess
  obtain ⟨step, made', -, own⟩ := all.get isLess isLess'
  obtain rfl := Option.some.inj (made.symm.trans made')
  refine ⟨prepared[position], List.getElem?_eq_getElem isLess', ?_⟩
  rw [← nestedCalls_eq_prepare coherent isEntry isInner]
  exact own

/-- The emitted step of a nested workflow, when its turn comes and when it is finalized. -/
theorem Ran.nestedCall (ran : workflow.Ran purpose amount world turns built after)
    (coherent : workflow.Coherent) (emitted : (emitting turns)[position]? = some turn)
    (isInner : turn.entry.generator = inner.asGenerator) :
    workflow.NestedCall inner purpose turns after.cells position turn := by
  obtain ⟨isTurn, emits⟩ := List.mem_filter.mp (List.mem_of_getElem? emitted)
  obtain ⟨step, made⟩ := (ran.taken turn isTurn).step_of_emits emits
  obtain ⟨simulated, built, rfl⟩ := (ran.taken turn isTurn).simulated isInner made
  refine ⟨⟨simulated, built, ?_, ?_⟩, ?_, fun last isLast call finalized => ?_⟩
  · rw [Turn.amountOut, made]
    rfl
  · rw [made]
    rfl
  · refine exists_lastRebuild ⟨turn, Purpose.mem_inWalkOrder.mpr isTurn, by rw [made]; rfl, inner,
      List.mem_cons_self, ?_⟩
    rw [isInner, cells_asGenerator]
    exact List.mem_map_of_mem List.mem_cons_self
  · obtain ⟨prepared, called, encoded, value⟩ := finalize_ok finalized
    obtain ⟨named, isThere, own⟩ := ran.prepare_of_emitted coherent emitted isInner called
    have payload : inner.encode last.after.cells = .ok named.call.payload := by
      have inside := ran.family_subset_nested isTurn isInner
      rw [← ran.encode_eq_lastRebuild coherent inside isLast, encode_eq_payload, own]
      rfl
    refine ⟨prepared, named, value ▸ encoded, isThere, payload, ?_⟩
    rw [payload]

end Turns

/-- After every build that succeeds, the call of each emitted nested workflow is the one that the
last turn left that built the workflow, or one that it holds. -/
theorem nested_call_of_last_rebuild (coherent : workflow.Coherent) {mode : RunMode} {data : RunData}
    {out : Uint256} (ok : workflow.build amount mode data world = (.ok out, after)) :
    ∃ turns built, workflow.Ran ⟨mode, data⟩ amount world turns built after ∧
      ∀ (position : Nat) (turn : Turn σ) (inner : Workflow σ), (emitting turns)[position]? = some turn →
        turn.entry.generator = inner.asGenerator →
        workflow.NestedCall inner ⟨mode, data⟩ turns after.cells position turn := by
  obtain ⟨built, -, ok⟩ := build_ok ok
  obtain ⟨turns, ran⟩ := buildFor_ok ok
  refine ⟨turns, built, ran, fun position turn inner emitted isInner => ?_⟩
  exact ran.nestedCall coherent emitted isInner

/-- One workflow twice in a plan, around a step that changes the amount. Its call holds the amount
that it gets. -/
def sharedPlan : Workflow Unit :=
  let amount : Workflow Unit :=
    ⟨[1], "amount", ⟨.farm, default⟩, [⟨.pure "word" fun amount _ => .ok (.payload (wordOf amount)), .plain⟩]⟩
  ⟨[0], "shared", ⟨.farm, default⟩,
    [⟨amount.asGenerator, .plain⟩, ⟨(Adjustment.add "more" 1).generator, ⟨none, .never, true, false⟩⟩,
      ⟨amount.asGenerator, .plain⟩]⟩

theorem sharedPlan_coherent : sharedPlan.Coherent := by
  simp [Coherent, sharedPlan, family, nested, workflowsIn, asGenerator, Generator.workflows, Adjustment.generator,
    Generator.pure]

theorem sharedPlan_nested_calls :
    sharedPlan.Coherent ∧ ∃ turns built after, sharedPlan.build 1 .forward .empty (.start ()) = (.ok 2, after) ∧
      sharedPlan.Ran ⟨.forward, .empty⟩ 1 (.start ()) turns built after ∧
      ∀ (position : Nat) (turn : Turn Unit) (inner : Workflow Unit), (emitting turns)[position]? = some turn →
        turn.entry.generator = inner.asGenerator →
        sharedPlan.NestedCall inner ⟨.forward, .empty⟩ turns after.cells position turn := by
  have ok : sharedPlan.build 1 .forward .empty (.start ()) =
      (.ok 2, (sharedPlan.build 1 .forward .empty (.start ())).2) := rfl
  obtain ⟨turns, built, ran, calls⟩ := nested_call_of_last_rebuild sharedPlan_coherent ok
  exact ⟨sharedPlan_coherent, turns, built, _, ok, ran, calls⟩

/-- The first call of `sharedPlan` is not the call that was simulated in its turn. -/
theorem sharedPlan_first_call_ne_simulated :
    ∃ amount first second middle after, sharedPlan.nested = [amount, amount] ∧
      amount.build 1 .forward .empty ((World.start ()).clear sharedPlan.cell) = (.ok 1, middle) ∧
      sharedPlan.build 1 .forward .empty (.start ()) = (.ok 2, after) ∧
      sharedPlan.preparedCalls after.cells = .ok [⟨"amount", first⟩, ⟨"amount", second⟩] ∧
      amount.encode middle.cells ≠ .ok first.payload := by
  refine ⟨_, _, _, _, _, rfl, rfl, rfl, rfl, fun same => ?_⟩
  have same := congrArg Except.toOption same
  revert same
  decide +kernel

end Workflow

end CallWeave
