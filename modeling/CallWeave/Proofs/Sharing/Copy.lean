import CallWeave.Proofs.Sharing.Nested

/-!
# Copies

A copy has the plan of its original and a cell of its own, so what is done with either changes
nothing in the build of the other, whatever the operations are and in whatever order they come. What
they share are the workflows in the plan. The calls of those are read from their cells, and so the
prepared calls of the one stay as they are exactly if the operations on the other leave the calls of
the emitted steps alone (`Workflow.preparedCalls_eq_iff`). Building a copy of `sharedPlan` with
another amount does not.

That the cell of a copy is its own is what a session sees to when it makes one (`Session.copy_fresh`).
-/

namespace CallWeave

variable {σ : Type}

/-- What can be asked of a workflow. -/
inductive Operation where
  | build (amount : Uint256) (mode : RunMode) (data : RunData)
  | clear
  | finalize
  | encode

/-- The world after an operation. The outbound call and the calldata are read off the builds. -/
def Operation.perform (workflow : Workflow σ) (operation : Operation) (world : World σ) : World σ :=
  match operation with
  | .build amount mode data => (workflow.build amount mode data world).2
  | .clear => world.clear workflow.cell
  | .finalize | .encode => world

/-- The world after some operations. -/
def performAll (workflow : Workflow σ) (operations : List Operation) (world : World σ) : World σ :=
  operations.foldl (fun world operation => operation.perform workflow world) world

/-- What is observed of a workflow is the same before and after, the calls as far as they are those
of the nested workflows only if these stay as they are. -/
structure Workflow.Isolated (workflow : Workflow σ) (before after : Cells) : Prop where
  isBuilt : workflow.isBuilt after = workflow.isBuilt before
  findTag : workflow.findTag after = workflow.findTag before
  tags : workflow.tags after = workflow.tags before
  length : workflow.length after = workflow.length before
  value : workflow.value after = workflow.value before
  amountOut : workflow.amountOut after = workflow.amountOut before
  summary : workflow.summary after = workflow.summary before
  /-- The prepared calls are the same exactly if each emitted step has the same call, or if there is
  one error. -/
  preparedCalls_iff : workflow.preparedCalls after = workflow.preparedCalls before ↔
    (∀ step ∈ (workflow.currentOrEmpty before).emittedSteps,
      step.call (workflow.nestedCalls after) = step.call (workflow.nestedCalls before)) ∨
      ∃ e, workflow.preparedCalls after = .error e ∧ workflow.preparedCalls before = .error e
  finalize : workflow.preparedCalls after = workflow.preparedCalls before →
    workflow.finalize after = workflow.finalize before
  /-- The calls are the same when the builds of the nested workflows are, in particular when there
  are none. -/
  nested : (∀ inner ∈ workflow.nested, after inner.cell = before inner.cell) →
    workflow.preparedCalls after = workflow.preparedCalls before

/-! ## What operations change -/

/-- An operation changes no cell outside of the family. -/
theorem Operation.perform_sameOutside (workflow : Workflow σ) (operation : Operation) (world : World σ) :
    World.SameOutside (workflow.family.map Workflow.cell) world (operation.perform workflow world) := by
  cases operation with
  | build amount mode data =>
    rw [perform, workflow.build_snd]
    exact workflow.buildFor_sameOutside ⟨mode, data⟩ amount world
  | clear => exact .clear (List.mem_map_of_mem List.mem_cons_self) world
  | finalize => exact .refl _ world
  | encode => exact .refl _ world

/-- Some operations change no cell outside of the family. -/
theorem performAll_sameOutside (workflow : Workflow σ) (operations : List Operation) (world : World σ) :
    World.SameOutside (workflow.family.map Workflow.cell) world (performAll workflow operations world) := by
  induction operations generalizing world with
  | nil => exact .refl _ world
  | cons first rest ih => exact (first.perform_sameOutside workflow world).trans (ih _)

namespace Workflow

variable {workflow : Workflow σ}

/-- With the own build as it was, the prepared calls are the same exactly if the call of each
emitted step is, or if there is one error. -/
theorem preparedCalls_eq_iff {before after : Cells} (own : after workflow.cell = before workflow.cell) :
    workflow.preparedCalls after = workflow.preparedCalls before ↔
      (∀ step ∈ (workflow.currentOrEmpty before).emittedSteps,
        step.call (workflow.nestedCalls after) = step.call (workflow.nestedCalls before)) ∨
        ∃ e, workflow.preparedCalls after = .error e ∧ workflow.preparedCalls before = .error e := by
  simp only [preparedCalls, current, currentOrEmpty, own]
  cases before workflow.cell with
  | none => simp [requireBuild]
  | some build =>
    simp only [requireBuild, Option.getD_some, Build.calls]
    split
    · simp
    · exact namedCalls_eq_iff

/-- What leaves the build of a workflow alone, isolates it. -/
theorem Isolated.of_cell_eq {before after : Cells} (own : after workflow.cell = before workflow.cell) :
    workflow.Isolated before after := by
  have current : workflow.currentOrEmpty after = workflow.currentOrEmpty before := by
    rw [currentOrEmpty, currentOrEmpty, own]
  have tags : workflow.tags after = workflow.tags before := by rw [Workflow.tags, Workflow.tags, current]
  refine ⟨?_, ?_, tags, ?_, ?_, ?_, ?_, preparedCalls_eq_iff own, finalize_congr own, fun nested => ?_⟩
  · rw [Workflow.isBuilt, Workflow.isBuilt, own]
  · funext tag
    rw [Workflow.findTag, Workflow.findTag, tags]
  · rw [Workflow.length, Workflow.length, current]
  · rw [Workflow.value, Workflow.value, current]
  · rw [Workflow.amountOut, Workflow.amountOut, Workflow.current, Workflow.current, own]
  · rw [Workflow.summary, Workflow.summary, current]
  · exact preparedCalls_congr own (nestedCalls_congr nested)

/-- A workflow and its copy do not see what is done with the other, except in the calls of the
workflows that both hold; and the copy starts unbuilt. -/
theorem copy_isolated (coherent : workflow.Coherent) {cell : CellId}
    (fresh : cell ∉ workflow.family.map Workflow.cell) {world : World σ} (unused : world.cells cell = none) :
    (workflow.copy cell).isBuilt world.cells = false ∧ (workflow.copy cell).entries = workflow.entries ∧
      ∀ (operations : List Operation) (world : World σ),
        workflow.Isolated world.cells (performAll (workflow.copy cell) operations world).cells ∧
          (workflow.copy cell).Isolated world.cells (performAll workflow operations world).cells := by
  refine ⟨?_, rfl, fun operations world => ⟨.of_cell_eq ?_, .of_cell_eq ?_⟩⟩
  · rw [isBuilt, copy, unused]
    rfl
  · refine performAll_sameOutside (workflow.copy cell) operations world workflow.cell ?_
    -- the family of the copy is the copy and what the original holds, and the original does not hold itself
    intro isIn
    obtain ⟨member, isMember, same⟩ := List.mem_map.mp isIn
    rcases List.mem_cons.mp isMember with rfl | inside
    · exact fresh (List.mem_map.mpr ⟨workflow, List.mem_cons_self, same.symm⟩)
    · exact coherent.cell_ne_of_mem_nested inside same
  · exact performAll_sameOutside workflow operations world cell fresh

theorem sharedPlan_copy_isolated :
    sharedPlan.Coherent ∧ [2] ∉ sharedPlan.family.map cell ∧
      (sharedPlan.copy [2]).isBuilt (sharedPlan.build 1 .forward .empty (.start ())).2.cells = false ∧
      (sharedPlan.copy [2]).entries = sharedPlan.entries ∧
      ∀ (operations : List Operation) (world : World Unit),
        sharedPlan.Isolated world.cells (performAll (sharedPlan.copy [2]) operations world).cells ∧
          (sharedPlan.copy [2]).Isolated world.cells (performAll sharedPlan operations world).cells := by
  have fresh : [2] ∉ sharedPlan.family.map cell := by decide
  exact ⟨sharedPlan_coherent, fresh, copy_isolated sharedPlan_coherent fresh rfl⟩

/-- The calls of `sharedPlan` are not the same after a copy of it was built with another amount. -/
theorem sharedPlan_calls_changed_by_copy :
    ∃ built after calls changed, sharedPlan.build 1 .forward .empty (.start ()) = (.ok 2, built) ∧
      performAll (sharedPlan.copy [2]) [.build 5 .forward .empty] built = after ∧
      sharedPlan.preparedCalls built.cells = .ok calls ∧ sharedPlan.preparedCalls after.cells = .ok changed ∧
      calls ≠ changed := by
  refine ⟨_, _, _, _, rfl, rfl, rfl, rfl, fun same => ?_⟩
  have same := congrArg (List.map fun named => named.call.payload) same
  revert same
  decide +kernel

end Workflow

end CallWeave
