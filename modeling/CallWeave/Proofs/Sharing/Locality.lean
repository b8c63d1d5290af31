import CallWeave.Proofs.Build.Calls
import CallWeave.Proofs.Sharing.Family

/-!
# What finalizing reads

The prepared calls and the outbound call of a workflow depend on the builds in its own cell and in
the cells of the workflows that it holds, and on nothing else (`Workflow.preparedCalls_congr`,
`Workflow.finalize_congr`). What is read of a nested workflow is its own current call
(`Workflow.nestedCalls_eq_prepare`).
-/

namespace CallWeave

variable {σ : Type} {cells other : Cells}

/-- When all generators answer alike for a cell, so do their entries. -/
theorem nestedCall?_congr {entries : List (Entry (Generator σ))} {wanted : CellId}
    (same : ∀ entry ∈ entries, entry.generator.callIn? cells wanted = entry.generator.callIn? other wanted) :
    nestedCall? cells entries wanted = nestedCall? other entries wanted := by
  induction entries with
  | nil => simp only [nestedCall?]
  | cons entry rest ih =>
    obtain ⟨generator, options⟩ := entry
    have first : generator.callIn? cells wanted = generator.callIn? other wanted := same _ List.mem_cons_self
    simp only [nestedCall?, first, ih fun later isIn => same later (List.mem_cons_of_mem _ isIn)]

/-- The call of a generator depends on the builds of the workflows in it. -/
theorem Generator.callIn?_congr (generator : Generator σ)
    (same : ∀ workflow ∈ generator.workflows, cells workflow.cell = other workflow.cell) :
    generator.callIn? cells = generator.callIn? other := by
  induction generator using Generator.induction with
  | leaf name run =>
    funext wanted
    simp [callIn?]
  | nested cell name encoder entries ih =>
    simp only [workflows, List.mem_cons, forall_eq_or_imp] at same
    obtain ⟨own, inside⟩ := same
    have each (entry : Entry (Generator σ)) (isEntry : entry ∈ entries) :
        entry.generator.callIn? cells = entry.generator.callIn? other :=
      ih entry isEntry fun workflow isIn => inside workflow (mem_workflowsIn.mpr ⟨entry, isEntry, isIn⟩)
    have entries (wanted : CellId) : nestedCall? cells entries wanted = nestedCall? other entries wanted :=
      nestedCall?_congr fun entry isEntry => congrFun (each entry isEntry) wanted
    funext wanted
    simp only [callIn?, outboundOf, own, entries]

/-- The workflow that a generator is. -/
def Generator.workflow? : Generator σ → Option (Workflow σ)
  | .leaf _ _ => none
  | .nested cell name encoder entries => some ⟨cell, name, encoder, entries⟩

theorem Generator.workflow?_eq_some_iff {generator : Generator σ} {workflow : Workflow σ} :
    generator.workflow? = some workflow ↔ generator = workflow.asGenerator := by
  obtain ⟨cell, name, encoder, entries⟩ := workflow
  cases generator <;> simp [workflow?, Workflow.asGenerator]

namespace Workflow

variable {workflow inner : Workflow σ}

/-- The calls of the nested workflows depend on their builds. -/
theorem nestedCalls_congr (same : ∀ inner ∈ workflow.nested, cells inner.cell = other inner.cell) :
    workflow.nestedCalls cells = workflow.nestedCalls other := by
  have each (entry : Entry (Generator σ)) (isEntry : entry ∈ workflow.entries) :
      entry.generator.callIn? cells = entry.generator.callIn? other :=
    entry.generator.callIn?_congr fun inner isIn => same inner (mem_nested_of_mem_entries isEntry isIn)
  funext cell
  rw [nestedCalls, nestedCalls, nestedCall?_congr fun entry isEntry => congrFun (each entry isEntry) cell]

/-- The prepared calls depend on the own build and on the calls of the nested workflows. -/
theorem preparedCalls_congr (own : cells workflow.cell = other workflow.cell)
    (nested : workflow.nestedCalls cells = workflow.nestedCalls other) :
    workflow.preparedCalls cells = workflow.preparedCalls other := by
  rw [preparedCalls, preparedCalls, current, current, own, nested]

/-- The outbound call depends on the own build and on the prepared calls. -/
theorem finalize_congr (own : cells workflow.cell = other workflow.cell)
    (prepared : workflow.preparedCalls cells = workflow.preparedCalls other) :
    workflow.finalize cells = workflow.finalize other := by
  simp only [preparedCalls, current, own] at prepared
  rw [finalize, finalize, outboundOf, outboundOf, own]
  cases held : requireBuild workflow.name (other workflow.cell) with
  | error e => rfl
  | ok build =>
    simp only [held] at prepared
    simp only [Build.outbound, prepared]

/-- The calldata depends on the builds of the family. -/
theorem encode_congr (same : ∀ member ∈ workflow.family, cells member.cell = other member.cell) :
    workflow.encode cells = workflow.encode other := by
  have nested := nestedCalls_congr fun inner isIn => same inner (List.mem_cons_of_mem _ isIn)
  have own := same workflow List.mem_cons_self
  rw [encode, encode, finalize_congr own (preparedCalls_congr own nested)]

/-- The outbound call carries the prepared calls, as the entry point encodes them, and the value. -/
theorem finalize_ok {call : OutboundCall} (ok : workflow.finalize cells = .ok call) :
    ∃ prepared, workflow.preparedCalls cells = .ok prepared ∧
      workflow.encoder.encodeArguments prepared (workflow.value cells) = .ok call.arguments ∧
      call.value = workflow.value cells := by
  simp only [finalize, outboundOf] at ok
  cases held : cells workflow.cell with
  | none => simp [held, requireBuild] at ok
  | some build =>
    have value : workflow.value cells = build.value := by rw [Workflow.value, currentOrEmpty, held]; rfl
    simp only [held, requireBuild, Build.outbound] at ok
    cases called : build.calls workflow.name (workflow.nestedCalls cells) with
    | error e => simp [called] at ok
    | ok prepared =>
      simp only [called] at ok
      cases encoded : workflow.encoder.encodeArguments prepared build.value with
      | error e => simp [encoded] at ok
      | ok arguments =>
        simp only [encoded, Except.ok.injEq] at ok
        refine ⟨prepared, ?_, ?_, ?_⟩
        · rw [preparedCalls, current, held]
          exact called
        · rw [value, encoded, ← ok]
        · rw [value, ← ok]

/-- The outbound call enters the entry point of the workflow. -/
theorem finalize_entry {call : OutboundCall} (ok : workflow.finalize cells = .ok call) :
    call.target = workflow.encoder.target ∧ call.selector = workflow.encoder.kind.selector := by
  simp only [finalize, outboundOf] at ok
  split at ok
  · cases ok
  · simp only [Build.outbound] at ok
    split at ok
    · cases ok
    · split at ok
      · cases ok
      · obtain rfl := Except.ok.inj ok
        exact ⟨rfl, rfl⟩

/-- The prepared calls are those of the build in the cell. -/
theorem preparedCalls_ok {prepared : List NamedCall} (ok : workflow.preparedCalls cells = .ok prepared) :
    ∃ build, cells workflow.cell = some build ∧
      List.Forall₂ (BuiltStep.Prepares (workflow.nestedCalls cells)) build.emittedSteps prepared := by
  simp only [preparedCalls, current] at ok
  cases held : cells workflow.cell with
  | none => simp [held, requireBuild] at ok
  | some build =>
    simp only [held, requireBuild] at ok
    exact ⟨build, rfl, (Build.calls_ok_iff.mp ok).2⟩

/-! ## The call of a nested workflow -/

/-- The calldata of a workflow is the payload of its call. -/
theorem encode_eq_payload (workflow : Workflow σ) (cells : Cells) :
    workflow.encode cells = (workflow.prepare cells).map PreparedCall.payload := by
  rw [encode, prepare]
  cases workflow.finalize cells <;> rfl

/-- A workflow answers for its own cell with its own call. -/
theorem callIn?_asGenerator (workflow : Workflow σ) (cells : Cells) (wanted : CellId) :
    workflow.asGenerator.callIn? cells wanted =
      if workflow.cell = wanted then some (workflow.prepare cells) else none := by
  rw [asGenerator, Generator.callIn?]
  rfl

/-- The first entry that answers is asked for the call. -/
theorem nestedCall?_eq_findSome? (cells : Cells) (entries : List (Entry (Generator σ))) (wanted : CellId) :
    nestedCall? cells entries wanted = entries.findSome? fun entry => entry.generator.callIn? cells wanted := by
  induction entries with
  | nil => rw [nestedCall?, List.findSome?_nil]
  | cons entry rest ih =>
    obtain ⟨generator, options⟩ := entry
    rw [nestedCall?, ih, List.findSome?_cons]
    cases generator.callIn? cells wanted <;> rfl

/-- Among entries in which a cell is one workflow, the first that answers for the cell answers as the workflow, if
everything answers for its own cell only. -/
theorem findSome?_eq_of_unique {α : Type} (answer : Generator σ → Option α) {a : α}
    {entries : List (Entry (Generator σ))} {entry : Entry (Generator σ)} (isEntry : entry ∈ entries)
    (isInner : entry.generator = inner.asGenerator)
    (unique : ∀ member ∈ workflowsIn entries, member.cell = inner.cell → member = inner)
    (leaf : ∀ name run, answer (.leaf name run) = none)
    (apart : ∀ other : Workflow σ, other.cell ≠ inner.cell → answer other.asGenerator = none)
    (answers : answer inner.asGenerator = some a) :
    entries.findSome? (fun entry => answer entry.generator) = some a := by
  have only (first : Entry (Generator σ)) (isIn : first ∈ entries) {b : α} (given : answer first.generator = some b) :
      b = a := by
    obtain ⟨generator, options⟩ := first
    cases generator with
    | leaf name run => simp [leaf] at given
    | nested cell name encoder inside =>
      let member : Workflow σ := ⟨cell, name, encoder, inside⟩
      have isMember : member ∈ workflowsIn entries := mem_workflowsIn.mpr ⟨_, isIn, List.mem_cons_self⟩
      have given : answer member.asGenerator = some b := given
      by_cases same : member.cell = inner.cell
      · rw [unique member isMember same, answers] at given
        exact (Option.some.inj given).symm
      · simp [apart member same] at given
  have isSome : (entries.findSome? fun entry => answer entry.generator).isSome :=
    List.findSome?_isSome_iff.mpr ⟨entry, isEntry, by rw [isInner, answers]; rfl⟩
  obtain ⟨b, found⟩ := Option.isSome_iff_exists.mp isSome
  obtain ⟨first, isFirst, given⟩ := List.exists_of_findSome?_eq_some found
  rw [found, only first isFirst given]

/-- In a coherent plan, a cell in the entries is one workflow. -/
theorem Coherent.eq_of_cell_eq (coherent : workflow.Coherent) {entry : Entry (Generator σ)}
    (isEntry : entry ∈ workflow.entries) (isInner : entry.generator = inner.asGenerator) :
    ∀ member ∈ workflowsIn workflow.entries, member.cell = inner.cell → member = inner := by
  intro member isMember same
  have isIn : inner ∈ workflow.nested :=
    mem_nested_of_mem_entries isEntry (by rw [isInner, workflows_asGenerator]; exact List.mem_cons_self)
  exact coherent member (List.mem_cons_of_mem _ isMember) inner (List.mem_cons_of_mem _ isIn) same

/-- The workflow that stands in a cell among the generators of a workflow: the first that does. -/
def holder? (workflow : Workflow σ) (cell : CellId) : Option (Workflow σ) :=
  (workflow.entries.filterMap fun entry => entry.generator.workflow?).find? (·.cell = cell)

/-- What is read of a cell is the current call of the workflow that stands there. -/
theorem nestedCalls_eq_holder (workflow : Workflow σ) (cells : Cells) (cell : CellId) :
    workflow.nestedCalls cells cell =
      ((workflow.holder? cell).map (·.prepare cells)).getD (.error (.notBuilt workflow.name)) := by
  rw [nestedCalls, nestedCall?_eq_findSome?, holder?]
  congr 1
  induction workflow.entries with
  | nil => rfl
  | cons entry rest ih =>
    rw [List.findSome?_cons, ih, List.filterMap_cons]
    cases isWorkflow : entry.generator.workflow? with
    | none =>
      have silent : entry.generator.callIn? cells cell = none := by
        cases generator : entry.generator with
        | leaf name run => rw [Generator.callIn?]
        | nested => simp [generator, Generator.workflow?] at isWorkflow
      rw [silent]
    | some first =>
      rw [Generator.workflow?_eq_some_iff.mp isWorkflow, callIn?_asGenerator]
      by_cases same : first.cell = cell <;> simp [same]

/-- Where a workflow is an entry, some workflow stands in its cell. -/
theorem exists_holder {entry : Entry (Generator σ)} (isEntry : entry ∈ workflow.entries)
    (isInner : entry.generator = inner.asGenerator) : ∃ holder, workflow.holder? inner.cell = some holder := by
  rw [← Option.isSome_iff_exists, holder?, List.find?_isSome]
  exact ⟨inner, List.mem_filterMap.mpr ⟨entry, isEntry, Generator.workflow?_eq_some_iff.mpr isInner⟩, by simp⟩

/-- In a coherent plan, it is the workflow itself. -/
theorem Coherent.holder_eq (coherent : workflow.Coherent) {entry : Entry (Generator σ)}
    (isEntry : entry ∈ workflow.entries) (isInner : entry.generator = inner.asGenerator) :
    workflow.holder? inner.cell = some inner := by
  obtain ⟨holder, isHolder⟩ := exists_holder isEntry isInner
  obtain ⟨other, isOther, isWorkflow⟩ := List.mem_filterMap.mp (List.mem_of_find?_eq_some isHolder)
  have same : holder.cell = inner.cell := by simpa using List.find?_some isHolder
  have inside : holder ∈ other.generator.workflows := by
    rw [Generator.workflow?_eq_some_iff.mp isWorkflow, workflows_asGenerator]
    exact List.mem_cons_self
  rw [isHolder, coherent.eq_of_cell_eq isEntry isInner holder (mem_workflowsIn.mpr ⟨other, isOther, inside⟩) same]

/-- In a coherent plan, what is read of a nested workflow is its own current call. -/
theorem nestedCalls_eq_prepare (coherent : workflow.Coherent) {entry : Entry (Generator σ)}
    (isEntry : entry ∈ workflow.entries) (isInner : entry.generator = inner.asGenerator) (cells : Cells) :
    workflow.nestedCalls cells inner.cell = inner.prepare cells := by
  rw [nestedCalls_eq_holder, coherent.holder_eq isEntry isInner]
  rfl

end Workflow

end CallWeave
