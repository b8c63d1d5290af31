import CallWeave.Proofs.Sharing.Agreement
import CallWeave.Proofs.Sharing.Copy
import CallWeave.Proofs.Sharing.Reachable

/-!
# Builds without a history

A workflow whose leaf generators answer from the amount and the context alone forgets what was done before a build:
the outcome of the build and all that can be observed until the next one are the same as in a world in which nothing
was ever built (`Workflow.build_forgets_history`). The worlds after the two builds need not be the same. Workflows
that the build left out still hold what they held, but no name leads to them. After a build that fails, a workflow
is observed to be unbuilt.
-/

namespace CallWeave

variable {σ : Type}

/-- The leaf generators in a generator, at any depth, answer from the amount and the context alone. -/
inductive Generator.Alone : Generator σ → Prop
  | leaf {name : String} {run : StepRun σ}
      (alone : ∀ amount context outside outside', (run amount context outside).1 = (run amount context outside').1) :
      Alone (.leaf name run)
  | nested {cell : CellId} {name : String} {encoder : Encoder} {entries : List (Entry (Generator σ))}
      (inside : ∀ entry ∈ entries, entry.generator.Alone) : Alone (.nested cell name encoder entries)

/-- A generator that leaves the outside world alone does not answer from it either. -/
theorem Generator.alone_pure (name : String)
    (run : Uint256 → RunContext → Except WorkflowError StepOutput) : (Generator.pure name run : Generator σ).Alone :=
  .leaf fun _ _ _ _ => rfl

/-- The leaf generators of a workflow, at any depth, answer from the amount and the context alone. -/
def Workflow.Alone (workflow : Workflow σ) : Prop := ∀ entry ∈ workflow.entries, entry.generator.Alone

/-! ## Outcomes -/

/-- A generator whose leaves answer alone answers alike in all worlds. -/
theorem Generator.Alone.agrees {generator : Generator σ} (alone : generator.Alone) (purpose : Purpose) :
    generator.Agrees Eq purpose purpose := by
  induction alone with
  | @leaf name run alone =>
    rintro amount context _ world world' rfl
    have answer := alone amount context world.outside world'.outside
    simp only [Generator.run]
    cases here : run amount context world.outside with | mk answered outside =>
    cases there : run amount context world'.outside with | mk answered' outside' =>
    rw [here, there] at answer
    obtain rfl : answered = answered' := answer
    cases answered <;> rfl
  | @nested cell name encoder entries _ ih =>
    have purposes : purpose.Alike Eq purpose := ⟨rfl, fun _ _ => rfl, fun _ _ => rfl⟩
    let workflow : Workflow σ := ⟨cell, name, encoder, entries⟩
    refine Workflow.agrees_asGenerator purposes (show ∀ entry ∈ workflow.entries, _ from ?_)
    intro entry isEntry
    refine ⟨?_, ih entry isEntry⟩
    rintro amount context _ rfl
    rfl

/-- A build has one outcome in all worlds. -/
theorem Workflow.Alone.buildFor_eq {workflow : Workflow σ} (alone : workflow.Alone) (purpose : Purpose)
    (amount : Uint256) (world world' : World σ) :
    (workflow.buildFor purpose amount world).1 = (workflow.buildFor purpose amount world').1 := by
  have purposes : purpose.Alike Eq purpose := ⟨rfl, fun _ _ => rfl, fun _ _ => rfl⟩
  refine workflow.buildFor_agrees purposes ?_ amount world world'
  intro entry isEntry
  refine ⟨?_, (alone entry isEntry).agrees purpose⟩
  rintro amount context _ rfl
  rfl

/-! ## What two builds show -/

/-- Two runs of a generator that make one step keep what the worlds show the same, and a workflow that the step
names shows the same. -/
def Generator.KeepsShown (purpose : Purpose) (generator : Generator σ) : Prop :=
  ∀ (amount : Uint256) (context : RunContext) (world world' after after' : World σ) (step : BuiltStep),
    generator.run purpose amount context world = (.ok step, after) →
    generator.run purpose amount context world' = (.ok step, after') →
    (∀ cell, world.cells.ShowSame world'.cells cell → after.cells.ShowSame after'.cells cell) ∧
      ∀ cell ∈ step.cell?, after.cells.ShowSame after'.cells cell

/-- Two turns of one generator, with one amount and in one context, make one step. -/
theorem Turn.Taken.showSame {purpose : Purpose} {turn turn' : Turn σ} (taken : turn.Taken purpose)
    (taken' : turn'.Taken purpose) (entry : turn.entry = turn'.entry) (amount : turn.amount = turn'.amount)
    (context : turn.context = turn'.context) (agrees : turn.entry.generator.Agrees Eq purpose purpose)
    (keeps : turn.entry.generator.KeepsShown purpose) :
    turn.step? = turn'.step? ∧
      (∀ cell, turn.before.cells.ShowSame turn'.before.cells cell →
        turn.after.cells.ShowSame turn'.after.cells cell) ∧
      ∀ step ∈ turn.step?, ∀ cell ∈ step.cell?, turn.after.cells.ShowSame turn'.after.cells cell := by
  cases taken with
  | leftOut isOut =>
    cases taken' with
    | leftOut => exact ⟨rfl, fun cell shows => shows, by simp⟩
    | made isIn =>
      simp only at entry amount context
      subst entry amount context
      simp [isOut] at isIn
  | @made _ running seen before after step isIn ran =>
    cases taken' with
    | leftOut isOut =>
      simp only at entry amount context
      subst entry amount context
      simp [isOut] at isIn
    | @made _ _ _ before' after' step' _ ran' =>
      simp only at entry amount context
      subst entry amount context
      have same := agrees running seen seen before before' rfl
      rw [ran, ran'] at same
      obtain rfl : step = step' := Except.ok.inj same
      obtain ⟨shown, named⟩ := keeps _ _ _ _ _ _ _ ran ran'
      refine ⟨rfl, shown, ?_⟩
      rintro _ ⟨⟩
      exact named

/-- Two walks along the same entries keep what the worlds show the same, and all workflows that the recorded steps
name show the same in the end. -/
theorem Walked.showSame {purpose : Purpose} {name : String} {past : List Recorded} {amount out out' : Uint256}
    {world world' last last' : World σ} {turns turns' : List (Turn σ)}
    (walked : Walked purpose name past amount world turns out last)
    (walked' : Walked purpose name past amount world' turns' out' last')
    (entries : turns.map Turn.entry = turns'.map Turn.entry)
    (agrees : ∀ turn ∈ turns, turn.entry.generator.Agrees Eq purpose purpose)
    (keeps : ∀ turn ∈ turns, turn.entry.generator.KeepsShown purpose) :
    (∀ cell, world.cells.ShowSame world'.cells cell → last.cells.ShowSame last'.cells cell) ∧
      ∀ record ∈ recordsOf turns, ∀ cell ∈ record.1.cell?, last.cells.ShowSame last'.cells cell := by
  induction walked generalizing world' turns' with
  | done =>
    obtain rfl : [] = turns' := by simpa using entries
    cases walked'
    exact ⟨fun cell shows => shows, by simp⟩
  | @next past turn turns out last taken sees rest ih =>
    obtain ⟨turn', turns', rfl⟩ : ∃ turn' rest', turns' = turn' :: rest' := by
      cases turns' with
      | nil => simp at entries
      | cons turn' rest' => exact ⟨turn', rest', rfl⟩
    -- the second walk begins with the turn of the same entry and goes on from the same amount, in the same context
    obtain ⟨⟨isAmount, rfl⟩, taken', sees', rest'⟩ := walked'.of_cons
    rw [List.map_cons, List.map_cons, List.cons_eq_cons] at entries
    obtain ⟨entry, entries⟩ := entries
    obtain ⟨step, shown, named⟩ := taken.showSame taken' entry isAmount.symm (sees.trans sees'.symm)
      (agrees turn List.mem_cons_self) (keeps turn List.mem_cons_self)
    have record : turn'.record? = turn.record? := by rw [Turn.record?, Turn.record?, step, entry]
    have amountOut : turn'.amountOut = turn.amountOut := by rw [Turn.amountOut, Turn.amountOut, step, isAmount]
    rw [record, amountOut] at rest'
    obtain ⟨shownLater, namedLater⟩ := ih rest' entries (fun other isIn => agrees other (List.mem_cons_of_mem _ isIn))
      fun other isIn => keeps other (List.mem_cons_of_mem _ isIn)
    refine ⟨fun cell shows => shownLater cell (shown cell shows), ?_⟩
    intro recorded isRecord cell isNamed
    rw [recordsOf_cons, List.mem_append] at isRecord
    rcases isRecord with first | later
    · obtain ⟨step, made, rfl⟩ := Option.map_eq_some_iff.mp (Option.mem_toList.mp first)
      exact shownLater cell (named step made cell isNamed)
    · exact namedLater recorded later cell isNamed

/-- Two builds that succeed keep what the worlds show the same, and the workflow shows the same. -/
theorem Workflow.showSame_of_buildFor {workflow : Workflow σ} (alone : workflow.Alone) {purpose : Purpose}
    (keeps : ∀ entry ∈ workflow.entries, entry.generator.KeepsShown purpose) {amount : Uint256}
    {world world' after after' : World σ} {build build' : Build}
    (built : workflow.buildFor purpose amount world = (.ok build, after))
    (built' : workflow.buildFor purpose amount world' = (.ok build', after')) :
    (∀ cell, world.cells.ShowSame world'.cells cell → after.cells.ShowSame after'.cells cell) ∧
      after.cells.ShowSame after'.cells workflow.cell := by
  have same := alone.buildFor_eq purpose amount world world'
  rw [built, built'] at same
  obtain rfl : build = build' := Except.ok.inj same
  obtain ⟨turns, ran⟩ := workflow.buildFor_ok built
  obtain ⟨turns', ran'⟩ := workflow.buildFor_ok built'
  obtain ⟨last, walked, rfl⟩ := ran.walked
  obtain ⟨last', walked', rfl⟩ := ran'.walked
  have entries : (purpose.inWalkOrder turns).map Turn.entry = (purpose.inWalkOrder turns').map Turn.entry := by
    rw [Purpose.inWalkOrder, Purpose.inWalkOrder]
    split
    · rw [List.map_reverse, List.map_reverse, ran.entries, ran'.entries]
    · rw [ran.entries, ran'.entries]
  have isEntry (turn : Turn σ) (isTurn : turn ∈ purpose.inWalkOrder turns) : turn.entry ∈ workflow.entries := by
    rw [← ran.entries]
    exact List.mem_map_of_mem (Purpose.mem_inWalkOrder.mp isTurn)
  obtain ⟨shown, named⟩ := walked.showSame walked' entries
    (fun turn isTurn => (alone _ (isEntry turn isTurn)).agrees purpose) fun turn isTurn => keeps _ (isEntry turn isTurn)
  -- all cells that the new build names were named by a recorded step, so they show the same already
  have names : ∀ held ∈ some build, ∀ inside ∈ held.cells,
      inside = workflow.cell ∨ last.cells.ShowSame last'.cells inside := by
    rintro _ ⟨⟩ inside isNamed
    obtain ⟨step, isStep, names⟩ := List.mem_filterMap.mp isNamed
    rw [ran.holds.steps] at isStep
    obtain ⟨record, isRecord, rfl⟩ := List.mem_map.mp isStep
    obtain ⟨turn, isTurn, recorded⟩ := List.mem_filterMap.mp isRecord
    have isRecord : record ∈ recordsOf (purpose.inWalkOrder turns) :=
      List.mem_filterMap.mpr ⟨turn, Purpose.mem_inWalkOrder.mpr isTurn, recorded⟩
    exact .inr (named record isRecord inside names)
  refine ⟨fun cell shows => .set names (.inr (shown cell shows.clear)), .set names (.inl rfl)⟩

/-- A leaf leaves all builds as they are, and its step names no cell. -/
theorem Generator.run_leaf {name : String} {run : StepRun σ} {purpose : Purpose} {amount : Uint256}
    {context : RunContext} {world after : World σ} {step : BuiltStep}
    (ran : (leaf name run).run purpose amount context world = (.ok step, after)) :
    after.cells = world.cells ∧ step.cell? = none := by
  simp only [Generator.run] at ran
  split at ran
  · cases ran
  · obtain ⟨rfl, rfl⟩ : BuiltStep.own _ = step ∧ _ = after := by simpa using ran
    exact ⟨rfl, rfl⟩

/-- A generator whose leaves answer alone keeps what is shown the same. -/
theorem Generator.Alone.keepsShown {generator : Generator σ} (alone : generator.Alone) (purpose : Purpose) :
    generator.KeepsShown purpose := by
  induction alone with
  | @leaf name run alone =>
    intro amount context world world' after after' step ran ran'
    obtain ⟨cells, names⟩ := Generator.run_leaf ran
    rw [cells, (Generator.run_leaf ran').1, names]
    exact ⟨fun cell shows => shows, by simp⟩
  | @nested cell name encoder entries inside ih =>
    intro amount context world world' after after' step ran ran'
    let workflow : Workflow σ := ⟨cell, name, encoder, entries⟩
    have run := workflow.run_asGenerator purpose amount world context
    have run' := workflow.run_asGenerator purpose amount world' context
    rw [Workflow.asGenerator, ran] at run
    rw [Workflow.asGenerator, ran'] at run'
    split at run
    · cases run
    case h_2 build last built =>
      split at run'
      · cases run'
      case h_2 build' last' built' =>
        obtain ⟨rfl, rfl⟩ : step = .nested cell name build.amountOut build.value ∧ after = last := by simpa using run
        obtain ⟨-, rfl⟩ : _ ∧ after' = last' := by simpa using run'
        have alone : workflow.Alone := inside
        obtain ⟨shown, own⟩ := Workflow.showSame_of_buildFor alone ih built built'
        refine ⟨shown, ?_⟩
        rintro _ ⟨⟩
        exact own

/-! ## Histories -/

/-- Whether an operation builds. -/
def Operation.builds : Operation → Bool
  | .build _ _ _ => true
  | .clear | .finalize | .encode => false

/-- The world after operations on several workflows. What only reads the builds, as decoding results does, leaves the
world as it is. -/
def performOn (operations : List (Workflow σ × Operation)) (world : World σ) : World σ :=
  operations.foldl (fun world asked => asked.2.perform asked.1 world) world

section Quiet

variable {operations : List (Workflow σ × Operation)} (quiet : ∀ asked ∈ operations, asked.2.builds = false)
  {cell : CellId}
include quiet

/-- Operations that do not build keep what is shown the same. -/
theorem showSame_performOn {world world' : World σ} (shows : world.cells.ShowSame world'.cells cell) :
    (performOn operations world).cells.ShowSame (performOn operations world').cells cell := by
  induction operations generalizing world world' with
  | nil => exact shows
  | cons first rest ih =>
    refine ih (fun later isIn => quiet later (List.mem_cons_of_mem _ isIn)) ?_
    have isQuiet := quiet first List.mem_cons_self
    obtain ⟨asked, operation⟩ := first
    cases operation with
    | build amount mode data => cases isQuiet
    | clear => exact shows.clear
    | finalize => exact shows
    | encode => exact shows

/-- They fill no cell. -/
theorem cells_performOn_of_none {world : World σ} (empty : world.cells cell = none) :
    (performOn operations world).cells cell = none := by
  induction operations generalizing world with
  | nil => exact empty
  | cons first rest ih =>
    refine ih (fun later isIn => quiet later (List.mem_cons_of_mem _ isIn)) ?_
    have isQuiet := quiet first List.mem_cons_self
    obtain ⟨asked, operation⟩ := first
    cases operation with
    | build amount mode data => cases isQuiet
    | clear =>
      by_cases isCleared : cell = asked.cell
      · simp [Operation.perform, World.clear, Cells.set, isCleared]
      · simpa [Operation.perform, World.clear, Cells.set, isCleared] using empty
    | finalize => exact empty
    | encode => exact empty

end Quiet

namespace Workflow

variable {workflow : Workflow σ}

/-- After two builds in whatever worlds, a coherent workflow shows the same. -/
theorem Alone.showSame (alone : workflow.Alone) (coherent : workflow.Coherent) (amount : Uint256) (mode : RunMode)
    (data : RunData) (world world' : World σ) :
    (workflow.build amount mode data world).2.cells.ShowSame (workflow.build amount mode data world').2.cells
      workflow.cell := by
  have same := alone.buildFor_eq ⟨mode, data⟩ amount world world'
  have kept := cell_buildFor coherent ⟨mode, data⟩ amount world
  have kept' := cell_buildFor coherent ⟨mode, data⟩ amount world'
  rw [build_snd, build_snd]
  cases here : workflow.buildFor ⟨mode, data⟩ amount world with | mk outcome after =>
  cases there : workflow.buildFor ⟨mode, data⟩ amount world' with | mk outcome' after' =>
  rw [here, there] at same
  rw [here] at kept
  rw [there] at kept'
  obtain rfl : outcome = outcome' := same
  -- nothing need be known of the worlds before: the cells of the workflows that are named were filled anew
  cases outcome with
  | ok build =>
    have keeps : ∀ entry ∈ workflow.entries, entry.generator.KeepsShown ⟨mode, data⟩ :=
      fun entry isEntry => (alone entry isEntry).keepsShown _
    exact (showSame_of_buildFor alone keeps here there).2
  | error e => exact .of_none kept kept'

/-- Whatever was asked of a workflow and of others before, a build has the outcome that it has where nothing was
built, and so is all that is observed until something is built again. If the build fails, the workflow is observed
to be unbuilt. -/
theorem build_forgets_history (coherent : workflow.Coherent) (alone : workflow.Alone)
    (history : List (Workflow σ × Operation)) (world : World σ) (outside : σ) (amount : Uint256) (mode : RunMode)
    (data : RunData) :
    let used := workflow.build amount mode data (performOn history world)
    let fresh := workflow.build amount mode data (.start outside)
    used.1 = fresh.1 ∧
      ∀ later : List (Workflow σ × Operation), (∀ asked ∈ later, asked.2.builds = false) →
        workflow.SeesSame (performOn later used.2).cells (performOn later fresh.2).cells ∧
          ∀ e, used.1 = .error e → workflow.SeenUnbuilt (performOn later used.2).cells := by
  intro used fresh
  refine ⟨?_, ?_⟩
  · have same := alone.buildFor_eq ⟨mode, data⟩ amount (performOn history world) (.start outside)
    simp only [used, fresh, build_eq, same]
  intro later quiet
  have shows : used.2.cells.ShowSame fresh.2.cells workflow.cell :=
    alone.showSame coherent amount mode data _ _
  refine ⟨seesSame_of_showSame (showSame_performOn quiet shows), ?_⟩
  intro e failed
  have unbuilt : used.2.cells workflow.cell = none := by
    have failed : workflow.buildFor ⟨mode, data⟩ amount (performOn history world) = (.error e, used.2) :=
      build_error (Prod.ext failed rfl)
    have kept := cell_buildFor coherent ⟨mode, data⟩ amount (performOn history world)
    rwa [failed] at kept
  exact seenUnbuilt_of_none (cells_performOn_of_none quiet unbuilt)

/-- A workflow with a step that fails when there is nothing left, behind a nested one that is not built in all
modes. -/
def guardedPlan : Workflow Unit :=
  let amount : Workflow Unit :=
    ⟨[1], "amount", ⟨.farm, default⟩, [⟨.pure "word" fun amount _ => .ok (.payload (wordOf amount)), .plain⟩]⟩
  let guard (amount : Uint256) (_ : RunContext) : Except WorkflowError StepOutput :=
    if amount = 0 then .error (.missingRunData "guard" "amount") else .ok (.payload [1])
  ⟨[0], "guarded", ⟨.farm, default⟩,
    [⟨amount.asGenerator, ⟨"amount", .never, false, true⟩⟩, ⟨.pure "guard" guard, ⟨"guard", .never, false, false⟩⟩]⟩

theorem guardedPlan_forgets :
    guardedPlan.Coherent ∧ guardedPlan.Alone ∧
      ∃ (history : List (Workflow Unit × Operation)) (used : World Unit) (e : WorkflowError),
        performOn history (.start ()) = used ∧ guardedPlan.length used.cells = 2 ∧
        (guardedPlan.build 0 .forward .empty used).1 = .error e ∧
        guardedPlan.SeenUnbuilt (guardedPlan.build 0 .forward .empty used).2.cells ∧
        (guardedPlan.build 3 .forward .empty used).2.cells [1] ≠
          (guardedPlan.build 3 .forward .empty (.start ())).2.cells [1] ∧
        guardedPlan.SeesSame (guardedPlan.build 3 .forward .empty used).2.cells
          (guardedPlan.build 3 .forward .empty (.start ())).2.cells := by
  have coherent : guardedPlan.Coherent := by
    simp [Coherent, guardedPlan, family, nested, workflowsIn, asGenerator, Generator.workflows, Generator.pure]
  have alone : guardedPlan.Alone := by
    simp only [Workflow.Alone, guardedPlan, asGenerator, List.mem_cons, List.not_mem_nil, or_false, forall_eq_or_imp,
      forall_eq]
    refine ⟨.nested ?_, Generator.alone_pure _ _⟩
    simp only [List.mem_cons, List.not_mem_nil, or_false, forall_eq]
    exact Generator.alone_pure _ _
  let history : List (Workflow Unit × Operation) := [(guardedPlan, .build 5 .execute .empty)]
  obtain ⟨-, failed⟩ := build_forgets_history coherent alone history (.start ()) () 0 .forward .empty
  obtain ⟨-, unbuilt⟩ := failed [] (by simp)
  obtain ⟨-, built⟩ := build_forgets_history coherent alone history (.start ()) () 3 .forward .empty
  obtain ⟨same, -⟩ := built [] (by simp)
  refine ⟨coherent, alone, history, _, _, rfl, rfl, rfl, unbuilt _ rfl, ?_, same⟩
  exact fun holds => Option.some_ne_none _ holds

end Workflow

end CallWeave
