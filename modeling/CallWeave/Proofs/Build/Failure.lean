import CallWeave.Proofs.Build.WalkOrder
import CallWeave.Proofs.Plan.Repetition

/-!
# Where a build fails

When a generator that answers by itself fails, at whatever depth of the plan, the build fails there and then
(`Workflow.failure_names_path`). No turn behind it comes, in any of the workflows around it, and each of these is left
without a build. The error is wrapped by each of them, so that it tells the way to the generator.

The other way for a build to fail is a tag that is registered twice, and there is no third
(`Workflow.exists_failsAt_or_duplicateTag`).
-/

namespace CallWeave

variable {σ : Type}

namespace WorkflowError

/-- How often an error is wrapped. -/
def layers : WorkflowError → Nat
  | .stepFailed _ _ source => source.layers + 1
  | _ => 0

/-- An error that is not that of a failed step. -/
def IsPlain (e : WorkflowError) : Prop := ∀ workflow step source, e ≠ .stepFailed workflow step source

theorem isPlain_rootCause (e : WorkflowError) : e.rootCause.IsPlain := by
  induction e with
  | stepFailed _ _ _ ih => exact ih
  | _ => rintro _ _ _ ⟨⟩

theorem IsPlain.rootCause_eq {e : WorkflowError} (plain : e.IsPlain) : e.rootCause = e := by
  cases e with
  | stepFailed workflow step source => exact absurd rfl (plain workflow step source)
  | _ => rfl

theorem IsPlain.layers_eq {e : WorkflowError} (plain : e.IsPlain) : e.layers = 0 := by
  cases e with
  | stepFailed workflow step source => exact absurd rfl (plain workflow step source)
  | _ => rfl

theorem layers_wrapped (path : List (String × String)) (cause : WorkflowError) :
    (wrapped path cause).layers = path.length + cause.layers := by
  induction path with
  | nil => rw [wrapped, List.foldr_nil, List.length_nil, Nat.zero_add]
  | cons place path ih =>
    rw [List.length_cons, Nat.add_right_comm, ← ih]
    rfl

end WorkflowError

/-! ## Generators that fail -/

namespace Workflow

variable {workflow : Workflow σ} {purpose : Purpose} {amount : Uint256} {world after : World σ} {e : WorkflowError}

section Asked

variable {running : Uint256} {before : World σ} {place : Nat} {generator : Generator σ} {context : RunContext}
  (asked : workflow.Asks purpose amount world place generator running context before)
  (failed : generator.run purpose running context before = (.error e, after))
include asked failed

/-- The turn of the generator fails, and those in front of it do not. -/
theorem Asks.takeTurn_error :
    ∃ front options rest past, workflow.placed purpose.mode = front ++ (⟨generator, options⟩, place) :: rest ∧
      takeTurns purpose workflow.name (front.map Prod.fst) amount [] (world.clear workflow.cell) =
        (.ok (running, past), before) ∧
      takeTurn purpose workflow.name ⟨generator, options⟩ running past before =
        (.error (.stepFailed workflow.name generator.name e), after) := by
  obtain ⟨turn, options, isEntry, isIn⟩ := asked
  obtain ⟨front, rest, split⟩ := List.append_of_mem (mem_placed.mpr isEntry)
  obtain ⟨past, taken, rfl⟩ := (turnComes_iff split).mp turn
  have stops : takeTurn purpose workflow.name ⟨generator, options⟩ running past before = _ :=
    takeTurn_of_run isIn failed
  exact ⟨front, options, rest, past, split, taken, stops⟩

/-- The build fails with the generator, and names it. -/
theorem Asks.buildFor_error :
    workflow.buildFor purpose amount world = (.error (.stepFailed workflow.name generator.name e), after) := by
  obtain ⟨front, options, rest, past, split, taken, stops⟩ := asked.takeTurn_error failed
  exact buildFor_of_stop split taken stops

/-- No generator is asked behind it. -/
theorem Asks.not_asks_later {later : Nat} (isLater : purpose.mode.TakesLater place later) {other : Generator σ}
    {running' : Uint256} {context' : RunContext} {before' : World σ} :
    ¬ workflow.Asks purpose amount world later other running' context' before' := by
  rintro ⟨turn, options', isOther, -⟩
  obtain ⟨front, options, rest, past, split, taken, stops⟩ := asked.takeTurn_error failed
  exact not_turnComes_of_stop split taken stops (mem_behind split isOther isLater) turn

end Asked

/-- A build that fails has asked a generator that fails, or a tag is there twice. -/
theorem exists_asks_or_duplicateTag (stopped : workflow.buildFor purpose amount world = (.error e, after)) :
    (∃ place generator running context before cause,
      workflow.Asks purpose amount world place generator running context before ∧
      generator.run purpose running context before = (.error cause, after) ∧
      e = .stepFailed workflow.name generator.name cause) ∨
    ∃ tag, e = .duplicateTag workflow.name tag := by
  rw [buildFor_eq_takeTurns] at stopped
  split at stopped
  case h_1 failed last taken =>
    obtain ⟨rfl, rfl⟩ : failed = e ∧ last = after := by simpa using stopped
    obtain ⟨front, ⟨generator, options⟩, place, rest, running, records, before, split, inFront, stops⟩ :=
      exists_of_takeTurns_error taken
    obtain ⟨isIn, ⟨cause, wrapped, ran⟩ | again⟩ := takeTurn_error stops
    · have isEntry := mem_placed.mp (split ▸ List.mem_append_right front List.mem_cons_self)
      exact .inl ⟨place, generator, running, _, before, cause,
        ⟨(turnComes_iff split).mpr ⟨records, inFront, rfl⟩, options, isEntry, isIn⟩, ran, wrapped⟩
    · exact .inr again
  case h_2 out records last taken =>
    split at stopped
    case h_2 => cases stopped
    case h_1 failed refused =>
      obtain ⟨rfl, -⟩ : failed = e ∧ last = after := by simpa using stopped
      exact .inr (exists_tag_of_recordAll_error (error_of_map_error refused))

/-! ## The way to a generator -/

/-- A workflow on the way to a generator that fails: what it is built with, and which of its entries goes wrong. -/
structure Level (σ : Type) where
  workflow : Workflow σ
  amount : Uint256
  world : World σ
  /-- Where the entry stands. -/
  place : Nat
  /-- The name of its generator. -/
  step : String

/-- The names that stand in the error. -/
def Level.names (level : Level σ) : String × String := (level.workflow.name, level.step)

/-- In a build, a generator that answers by itself is asked and fails, and the world is left so. The path holds the
workflows around it, from the outside in: the first one, and one more for each level that the generator is below it. -/
inductive FailsAt (purpose : Purpose) :
    Workflow σ → Uint256 → World σ → List (Level σ) → WorkflowError → World σ → Prop
  | leaf {workflow : Workflow σ} {amount running : Uint256} {world before : World σ} {place : Nat} {name : String}
      {run : StepRun σ} {context : RunContext} {e : WorkflowError} {outside : σ}
      (asked : workflow.Asks purpose amount world place (.leaf name run) running context before)
      (failed : run running context before.outside = (.error e, outside)) :
      FailsAt purpose workflow amount world [⟨workflow, amount, world, place, name⟩] e ⟨before.cells, outside⟩
  | inside {workflow inner : Workflow σ} {amount running : Uint256} {world before after : World σ} {place : Nat}
      {context : RunContext} {path : List (Level σ)} {e : WorkflowError}
      (asked : workflow.Asks purpose amount world place inner.asGenerator running context before)
      (deeper : FailsAt purpose inner running before path e after) :
      FailsAt purpose workflow amount world (⟨workflow, amount, world, place, inner.name⟩ :: path) e after

/-- The workflow of an entry of a coherent one is coherent. -/
theorem Coherent.inside {workflow inner : Workflow σ} (coherent : workflow.Coherent) {entry : Entry (Generator σ)}
    (isEntry : entry ∈ workflow.entries) (isInner : entry.generator = inner.asGenerator) : inner.Coherent := by
  have isIn {member : Workflow σ} (isMember : member ∈ inner.family) : member ∈ workflow.family :=
    List.mem_cons_of_mem _ (mem_nested_of_mem_entries isEntry (by rwa [isInner, workflows_asGenerator]))
  intro one isOne other isOther same
  exact coherent one (isIn isOne) other (isIn isOther) same

namespace FailsAt

variable {workflow : Workflow σ} {purpose : Purpose} {amount : Uint256} {world after : World σ}
  {path : List (Level σ)} {e : WorkflowError}

/-- What a leaf that fails leaves. -/
theorem run_leaf_error {name : String} {run : StepRun σ} {context : RunContext} {outside : σ}
    (failed : run amount context world.outside = (.error e, outside)) :
    (Generator.leaf name run).run purpose amount context world = (.error e, ⟨world.cells, outside⟩) := by
  rw [Generator.run, failed]

/-- A nested workflow fails as its build does. -/
theorem run_asGenerator_error {context : RunContext}
    (failed : workflow.buildFor purpose amount world = (.error e, after)) :
    workflow.asGenerator.run purpose amount context world = (.error e, after) := by
  rw [run_asGenerator, failed]

/-- The build fails, with the error in as many wrappings as there are workflows on the path. -/
theorem buildFor_error (fails : FailsAt purpose workflow amount world path e after) :
    workflow.buildFor purpose amount world = (.error (.wrapped (path.map Level.names) e), after) := by
  induction fails with
  | leaf asked failed => exact asked.buildFor_error (run_leaf_error failed)
  | inside asked _ ih => exact asked.buildFor_error (run_asGenerator_error ih)

/-- Behind the entry on the path no generator is asked, in any of the workflows. -/
theorem not_asks_later (fails : FailsAt purpose workflow amount world path e after) {level : Level σ}
    (isLevel : level ∈ path) {later : Nat} (isLater : purpose.mode.TakesLater level.place later)
    {generator : Generator σ} {running : Uint256} {context : RunContext} {before : World σ} :
    ¬ level.workflow.Asks purpose level.amount level.world later generator running context before := by
  induction fails with
  | leaf asked failed =>
    obtain rfl := List.mem_singleton.mp isLevel
    exact asked.not_asks_later (run_leaf_error failed) isLater
  | inside asked deeper ih =>
    rcases List.mem_cons.mp isLevel with rfl | isDeeper
    · exact asked.not_asks_later (run_asGenerator_error deeper.buildFor_error) isLater
    · exact ih isDeeper

/-- A workflow that fails has no build. -/
theorem isBuilt_first (coherent : workflow.Coherent) (fails : FailsAt purpose workflow amount world path e after) :
    workflow.isBuilt after.cells = false := by
  have held := cell_buildFor coherent purpose amount world
  rw [fails.buildFor_error] at held
  rw [isBuilt, held]
  rfl

/-- None of the workflows on the path has a build. -/
theorem isBuilt_eq_false (coherent : workflow.Coherent) (fails : FailsAt purpose workflow amount world path e after)
    {level : Level σ} (isLevel : level ∈ path) : level.workflow.isBuilt after.cells = false := by
  induction fails with
  | leaf asked failed =>
    obtain rfl := List.mem_singleton.mp isLevel
    exact isBuilt_first coherent (.leaf asked failed)
  | inside asked deeper ih =>
    rcases List.mem_cons.mp isLevel with rfl | isDeeper
    · exact isBuilt_first coherent (.inside asked deeper)
    · obtain ⟨_, _, isEntry, _⟩ := asked
      exact ih (coherent.inside (List.mem_of_getElem? isEntry) rfl) isDeeper

end FailsAt

/-- Whatever error a build fails with, a generator that answers by itself has failed with it and the workflows on the
way have wrapped it, or it is about a tag that is there twice, wrapped by the workflows around the one with the tag. -/
theorem exists_failsAt_or_duplicateTag (stopped : workflow.buildFor purpose amount world = (.error e, after)) :
    (∃ path cause, FailsAt purpose workflow amount world path cause after ∧
      e = .wrapped (path.map Level.names) cause) ∨
    ∃ names inner tag, e = .wrapped names (.duplicateTag inner tag) := by
  suffices inside : ∀ generator : Generator σ, ∀ inner : Workflow σ, generator = inner.asGenerator →
      ∀ amount world after e, inner.buildFor purpose amount world = (.error e, after) →
        (∃ path cause, FailsAt purpose inner amount world path cause after ∧
          e = .wrapped (path.map Level.names) cause) ∨
        ∃ names deep tag, e = .wrapped names (.duplicateTag deep tag) from
    inside workflow.asGenerator workflow rfl amount world after e stopped
  intro generator
  induction generator using Generator.induction with
  | leaf name run =>
    intro inner isInner
    cases isInner
  | nested cell name encoder entries ih =>
    intro inner isInner amount world after e stopped
    obtain rfl : inner = ⟨cell, name, encoder, entries⟩ := by
      cases inner
      cases isInner
      rfl
    obtain ⟨place, generator, running, context, before, cause, asked, failed, rfl⟩ | ⟨tag, rfl⟩ :=
      exists_asks_or_duplicateTag stopped
    · obtain ⟨_, options, isEntry, _⟩ := id asked
      cases generator with
      | leaf step run =>
        rw [Generator.run] at failed
        split at failed
        case h_2 => cases failed
        case h_1 cause' outside failed' =>
          obtain ⟨rfl, rfl⟩ : cause' = cause ∧ _ = after := by simpa using failed
          exact .inl ⟨_, cause', .leaf asked failed', rfl⟩
      | nested cell' name' encoder' entries' =>
        let deep : Workflow σ := ⟨cell', name', encoder', entries'⟩
        have made := deep.run_asGenerator purpose running before context
        rw [show deep.asGenerator = .nested cell' name' encoder' entries' from rfl, failed] at made
        split at made
        case h_2 => cases made
        case h_1 cause' after' built =>
          obtain ⟨rfl, rfl⟩ : cause = cause' ∧ after = after' := by simpa using made
          rcases ih _ (List.mem_of_getElem? isEntry) deep rfl running before after cause built with
            ⟨path, cause, deeper, rfl⟩ | ⟨names, low, tag, rfl⟩
          · exact .inl ⟨_, cause, .inside asked deeper, rfl⟩
          · exact .inr ⟨(name, name') :: names, low, tag, rfl⟩
    · exact .inr ⟨[], name, tag, rfl⟩

/-- When a generator that answers by itself fails in a build, at whatever depth and in whatever mode, the build fails as
well and leaves the world as the generator has left it. Its error is that of the generator, wrapped once for each
workflow around it, from the outside in, with the name of the workflow and of the generator that failed in it; the
cause is found inside the wrapping and is not that of a failed step. In none of these workflows is a generator asked
whose turn would come later, and none of them has a build. -/
theorem failure_names_path {workflow : Workflow σ} (coherent : workflow.Coherent) {mode : RunMode} {data : RunData}
    {amount : Uint256} {world after : World σ} {path : List (Level σ)} {e : WorkflowError}
    (fails : FailsAt ⟨mode, data⟩ workflow amount world path e after)
    (plain : ∀ workflow step source, e ≠ .stepFailed workflow step source) :
    ∃ error, workflow.build amount mode data world = (.error error, after) ∧
      error = .wrapped (path.map fun level => (level.workflow.name, level.step)) e ∧
      error.layers = path.length ∧ error.rootCause = e ∧
      (∀ workflow step source, error.rootCause ≠ .stepFailed workflow step source) ∧
      (∀ level ∈ path, ∀ later, mode.TakesLater level.place later → ∀ generator running context before,
        ¬ level.workflow.Asks ⟨mode, data⟩ level.amount level.world later generator running context before) ∧
      ∀ level ∈ path, level.workflow.isBuilt after.cells = false := by
  have plain : e.IsPlain := plain
  refine ⟨_, ?_, rfl, ?_, ?_, WorkflowError.isPlain_rootCause _, ?_, ?_⟩
  · rw [build, fails.buildFor_error]
    rfl
  · rw [WorkflowError.layers_wrapped, plain.layers_eq, List.length_map, Nat.add_zero]
  · rw [WorkflowError.rootCause_wrapped, plain.rootCause_eq]
  · exact fun level isLevel later isLater generator running context before => fails.not_asks_later isLevel isLater
  · exact fun level isLevel => fails.isBuilt_eq_false coherent isLevel

/-- Generators that note in a log that they are asked; the second knows no way back. -/
def brittleInner : Workflow (List String) :=
  ⟨[2], "inner", ⟨.farm, default⟩,
    [⟨.leaf "claim" fun _ _ log => (.ok (.payload []), log ++ ["claim"]), .plain⟩,
      ⟨.leaf "swap" fun _ context log =>
        (if context.mode.isReversed then .error (.missingTarget "swap") else .ok (.payload []), log ++ ["swap"]),
        .plain⟩,
      ⟨.leaf "wrap" fun _ _ log => (.ok (.payload []), log ++ ["wrap"]), .plain⟩]⟩

/-- A workflow around them. -/
def brittleMiddle : Workflow (List String) :=
  ⟨[1], "middle", ⟨.farm, default⟩,
    [⟨brittleInner.asGenerator, .plain⟩,
      ⟨.leaf "send" fun _ _ log => (.ok (.payload []), log ++ ["send"]), .plain⟩]⟩

/-- And one around that. -/
def brittlePlan : Workflow (List String) :=
  ⟨[0], "route", ⟨.advancedFarm, default⟩,
    [⟨.leaf "permit" fun _ _ log => (.ok (.payload []), log ++ ["permit"]), .plain⟩,
      ⟨brittleMiddle.asGenerator, .plain⟩,
      ⟨.leaf "deposit" fun _ _ log => (.ok (.payload []), log ++ ["deposit"]), .plain⟩]⟩

/-- Built forward, and backward then, the plan fails on the way, and all of its workflows are left without a build. -/
theorem brittlePlan_fails :
    ∃ (built after : World (List String)) (path : List (Level (List String))),
      brittlePlan.Coherent ∧ brittlePlan.build 7 .forward .empty (.start []) = (.ok 7, built) ∧
      (∀ workflow ∈ brittlePlan.family, workflow.isBuilt built.cells = true) ∧
      FailsAt ⟨.reversed, .empty⟩ brittlePlan 7 built path (.missingTarget "swap") after ∧
      path.map (fun level => (level.workflow.name, level.place)) = [("route", 1), ("middle", 0), ("inner", 1)] ∧
      brittlePlan.build 7 .reversed .empty built =
        (.error (.stepFailed "route" "middle" (.stepFailed "middle" "inner" (.stepFailed "inner" "swap"
          (.missingTarget "swap")))), after) ∧
      after.outside = ["permit", "claim", "swap", "wrap", "send", "deposit", "deposit", "send", "wrap", "swap"] ∧
      (∀ level ∈ path, ∀ later, RunMode.reversed.TakesLater level.place later → ∀ generator running context before,
        ¬ level.workflow.Asks ⟨.reversed, .empty⟩ level.amount level.world later generator running context before) ∧
      ∀ level ∈ path, level.workflow.isBuilt after.cells = false := by
  have coherent : brittlePlan.Coherent := by
    simp [Coherent, brittlePlan, brittleMiddle, brittleInner, family, nested, workflowsIn, asGenerator,
      Generator.workflows]
  let log := ["permit", "claim", "swap", "wrap", "send", "deposit"]
  obtain ⟨cells, ok, isBuilt⟩ : ∃ cells, brittlePlan.build 7 .forward .empty (.start []) = (.ok 7, ⟨cells, log⟩) ∧
      ∀ workflow ∈ brittlePlan.family, workflow.isBuilt cells = true :=
    ⟨(brittlePlan.build 7 .forward .empty (.start [])).2.cells, rfl, by decide⟩
  let built : World (List String) := ⟨cells, log⟩
  let outer : World (List String) := ⟨(built.clear [0]).cells, log ++ ["deposit"]⟩
  let middle : World (List String) := ⟨(outer.clear [1]).cells, log ++ ["deposit", "send"]⟩
  let inner : World (List String) := ⟨(middle.clear [2]).cells, log ++ ["deposit", "send", "wrap"]⟩
  have asksMiddle : brittlePlan.Asks ⟨.reversed, .empty⟩ 7 built 1 brittleMiddle.asGenerator 7 _ outer :=
    ⟨.backward rfl rfl, .plain, rfl, rfl⟩
  have asksInner : brittleMiddle.Asks ⟨.reversed, .empty⟩ 7 outer 0 brittleInner.asGenerator 7 _ middle :=
    ⟨.backward rfl rfl, .plain, rfl, rfl⟩
  have asksSwap : brittleInner.Asks ⟨.reversed, .empty⟩ 7 middle 1 (.leaf "swap" _) 7 _ inner :=
    ⟨.backward rfl rfl, .plain, rfl, rfl⟩
  have fails := FailsAt.inside asksMiddle (.inside asksInner (.leaf asksSwap rfl))
  obtain ⟨error, failed, rfl, -, -, -, notAsked, notBuilt⟩ :=
    failure_names_path coherent fails (by simp)
  exact ⟨built, _, _, coherent, ok, isBuilt, fails, rfl, failed, rfl, notAsked, notBuilt⟩

end Workflow

end CallWeave
