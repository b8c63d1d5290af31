import CallWeave.Proofs.Build.Turns
import CallWeave.Proofs.Sharing.Family

/-!
# What a build leaves alone

What holds between the worlds before and after every turn, and between any two that it holds between step
by step, holds between those before and after a build (`Workflow.buildFor_related`). In particular, building
a workflow changes its own cell and the cells of the workflows that it holds, and no other, whether it
succeeds or fails (`Workflow.buildFor_sameOutside`). Turns that keep apart from some cells therefore leave
the builds in them as they are (`Walked.cells_eq`).
-/

namespace CallWeave

variable {σ : Type}

/-- Outside of some cells, two worlds hold the same builds. -/
def World.SameOutside (changed : List CellId) (before after : World σ) : Prop :=
  ∀ cell, cell ∉ changed → after.cells cell = before.cells cell

namespace World.SameOutside

variable {changed more : List CellId} {before middle after : World σ}

theorem refl (changed : List CellId) (world : World σ) : SameOutside changed world world := fun _ _ => rfl

theorem trans (first : SameOutside changed before middle) (second : SameOutside changed middle after) :
    SameOutside changed before after :=
  fun cell isOutside => (second cell isOutside).trans (first cell isOutside)

theorem mono (same : SameOutside changed before after) (isSub : changed ⊆ more) :
    SameOutside more before after :=
  fun cell isOutside => same cell fun isIn => isOutside (isSub isIn)

/-- Clearing a cell changes that cell. -/
theorem clear {cell : CellId} (isIn : cell ∈ changed) (world : World σ) :
    SameOutside changed world (world.clear cell) := by
  intro other isOutside
  have apart : other ≠ cell := fun same => isOutside (same ▸ isIn)
  simp [World.clear, Cells.set, apart]

/-- Filling a cell changes that cell. -/
theorem store {cell : CellId} (isIn : cell ∈ changed) (world : World σ) (build : Build) :
    SameOutside changed world (world.store cell build) := by
  intro other isOutside
  have apart : other ≠ cell := fun same => isOutside (same ▸ isIn)
  simp [World.store, Cells.set, apart]

end World.SameOutside

/-- A generator changes no cell outside of some. -/
def Generator.KeepsOutside (purpose : Purpose) (changed : List CellId) (generator : Generator σ) : Prop :=
  ∀ amount context world, World.SameOutside changed world (generator.run purpose amount context world).2

section Walks

variable {purpose : Purpose} {entries : List (Entry (Generator σ))} {related : World σ → World σ → Prop}
  (refl : ∀ world, related world world)
  (trans : ∀ {before middle after}, related before middle → related middle after → related before after)
include refl trans

/-- Where every run of a generator leads from a world to a related one, a walk forward does. -/
theorem walk_related
    (runs : ∀ entry ∈ entries, ∀ amount context world,
      related world (entry.generator.run purpose amount context world).2)
    (name : String) (amount : Uint256) (build : Build) (world : World σ) :
    related world (walk purpose name entries amount build world).2 := by
  induction entries generalizing amount build world with
  | nil =>
    rw [walk]
    exact refl world
  | cons entry rest ih =>
    obtain ⟨generator, options⟩ := entry
    have ih := ih fun other isIn => runs other (List.mem_cons_of_mem _ isIn)
    simp only [walk]
    split
    · exact ih amount build world
    · have ran := runs _ List.mem_cons_self amount (purpose.forwardContext name build) world
      split
      case h_1 e after run =>
        rw [run] at ran
        exact ran
      case h_2 step after run =>
        rw [run] at ran
        split
        · exact ran
        · exact trans ran (ih _ _ _)

/-- Where every run of a generator leads from a world to a related one, a walk backward does. -/
theorem walkBack_related
    (runs : ∀ entry ∈ entries, ∀ amount context world,
      related world (entry.generator.run purpose amount context world).2)
    (name : String) (amount : Uint256) (world : World σ) :
    related world (walkBack purpose name entries amount world).2 := by
  induction entries with
  | nil =>
    rw [walkBack]
    exact refl world
  | cons entry rest ih =>
    obtain ⟨generator, options⟩ := entry
    have ih := ih fun other isIn => runs other (List.mem_cons_of_mem _ isIn)
    simp only [walkBack]
    split
    case h_1 e middle walked =>
      rw [walked] at ih
      exact ih
    case h_2 running later middle walked =>
      rw [walked] at ih
      split
      · exact ih
      · have ran := runs _ List.mem_cons_self running (purpose.backwardContext name later) middle
        split
        case h_1 e after run =>
          rw [run] at ran
          exact trans ih ran
        case h_2 step after run =>
          rw [run] at ran
          exact trans ih ran

/-- A build walks from the world in which its cell is cleared, and fills the cell when it succeeds. -/
theorem Workflow.buildFor_walked {workflow : Workflow σ}
    (runs : ∀ entry ∈ workflow.entries, ∀ amount context world,
      related world (entry.generator.run purpose amount context world).2)
    (amount : Uint256) (world : World σ) :
    ∃ after, related (world.clear workflow.cell) after ∧
      ((∃ e, workflow.buildFor purpose amount world = (.error e, after)) ∨
        ∃ build, workflow.buildFor purpose amount world = (.ok build, after.store workflow.cell build)) := by
  have forward := walk_related refl trans runs workflow.name amount .empty (world.clear workflow.cell)
  have backward := walkBack_related refl trans runs workflow.name amount (world.clear workflow.cell)
  unfold buildFor buildInto
  extract_lets result
  -- whichever walk it is, and whether it fails or not, it leads to a related world
  have walked : related (world.clear workflow.cell) result.2 := by
    simp only [result]
    split
    · split
      case h_1 e after run =>
        rw [run] at backward
        exact backward
      case h_2 walk after run =>
        rw [run] at backward
        exact backward
    · exact forward
  clear_value result
  obtain ⟨outcome, after⟩ := result
  refine ⟨after, walked, ?_⟩
  cases outcome with
  | error e => exact .inl ⟨e, rfl⟩
  | ok build => exact .inr ⟨build, rfl⟩

/-- A build leads to a related world, when clearing and filling the workflow's own cell do. -/
theorem Workflow.buildFor_related {workflow : Workflow σ}
    (clear : ∀ world, related world (world.clear workflow.cell))
    (store : ∀ world build, related world (world.store workflow.cell build))
    (runs : ∀ entry ∈ workflow.entries, ∀ amount context world,
      related world (entry.generator.run purpose amount context world).2)
    (amount : Uint256) (world : World σ) : related world (workflow.buildFor purpose amount world).2 := by
  obtain ⟨after, walked, ⟨e, failed⟩ | ⟨build, built⟩⟩ := workflow.buildFor_walked refl trans runs amount world
  · rw [failed]
    exact trans (clear world) walked
  · rw [built]
    exact trans (trans (clear world) walked) (store after build)

end Walks

/-! ## A workflow as a generator -/

namespace Workflow

variable (workflow : Workflow σ) (purpose : Purpose) (amount : Uint256) (world : World σ)

/-- A nested workflow runs as a build of it; the step keeps its amount and its value. -/
theorem run_asGenerator (context : RunContext) :
    workflow.asGenerator.run purpose amount context world =
      match workflow.buildFor purpose amount world with
      | (.error e, after) => (.error e, after)
      | (.ok build, after) => (.ok (.nested workflow.cell workflow.name build.amountOut build.value), after) := by
  rw [asGenerator, Generator.run]
  rfl

/-- It leaves the world that the build leaves. -/
theorem run_asGenerator_snd (context : RunContext) :
    (workflow.asGenerator.run purpose amount context world).2 = (workflow.buildFor purpose amount world).2 := by
  rw [run_asGenerator]
  split
  case h_1 run => rw [run]
  case h_2 run => rw [run]

/-- So does a build that only answers with the amount. -/
theorem build_snd (mode : RunMode) (data : RunData) :
    (workflow.build amount mode data world).2 = (workflow.buildFor ⟨mode, data⟩ amount world).2 := by
  rw [build]
  split
  case h_1 run => rw [run]
  case h_2 run => rw [run]

end Workflow

/-! ## Runs and builds -/

/-- Running a generator changes no cell outside of its own. -/
theorem Generator.run_sameOutside (purpose : Purpose) (generator : Generator σ) :
    generator.KeepsOutside purpose generator.cells := by
  induction generator using Generator.induction with
  | leaf name run =>
    intro amount context world cell _
    simp only [Generator.run]
    split <;> rfl
  | nested cell name encoder entries ih =>
    let workflow : Workflow σ := ⟨cell, name, encoder, entries⟩
    have isIn : cell ∈ workflow.asGenerator.cells := by simp [workflow, Workflow.family]
    have keeps : ∀ entry ∈ entries, entry.generator.KeepsOutside purpose workflow.asGenerator.cells := by
      intro entry isEntry amount context world
      refine (ih entry isEntry amount context world).mono ?_
      intro other isIn
      obtain ⟨inner, inside, rfl⟩ := List.mem_map.mp isIn
      rw [Workflow.cells_asGenerator]
      exact List.mem_map_of_mem (List.mem_cons_of_mem _ (Workflow.mem_nested_of_mem_entries isEntry inside))
    intro amount context world
    have same : World.SameOutside workflow.asGenerator.cells world (workflow.buildFor purpose amount world).2 :=
      Workflow.buildFor_related (.refl _) .trans (.clear isIn) (.store isIn) keeps amount world
    rwa [← workflow.run_asGenerator_snd purpose amount world context] at same

namespace Workflow

/-- Building a workflow changes no cell outside of its family. -/
theorem buildFor_sameOutside (workflow : Workflow σ) (purpose : Purpose) (amount : Uint256) (world : World σ) :
    World.SameOutside (workflow.family.map cell) world (workflow.buildFor purpose amount world).2 := by
  have context : RunContext := ⟨purpose.mode, purpose.data, [], 0, workflow.name, []⟩
  rw [← workflow.run_asGenerator_snd purpose amount world context, ← cells_asGenerator]
  exact workflow.asGenerator.run_sameOutside purpose amount context world

/-- In the cell of a coherent workflow is what came of its build: nothing, if it failed. -/
theorem cell_buildFor {workflow : Workflow σ} (coherent : workflow.Coherent) (purpose : Purpose) (amount : Uint256)
    (world : World σ) :
    (workflow.buildFor purpose amount world).2.cells workflow.cell =
      (workflow.buildFor purpose amount world).1.toOption := by
  let related (before after : World σ) : Prop := after.cells workflow.cell = before.cells workflow.cell
  have runs : ∀ entry ∈ workflow.entries, ∀ amount context world,
      related world (entry.generator.run purpose amount context world).2 := by
    intro entry isEntry amount context world
    refine entry.generator.run_sameOutside purpose amount context world workflow.cell fun isIn => ?_
    obtain ⟨inner, inside, same⟩ := List.mem_map.mp isIn
    exact coherent.cell_ne_of_mem_nested (mem_nested_of_mem_entries isEntry inside) same
  have refl : ∀ world, related world world := fun _ => rfl
  obtain ⟨after, walked, ⟨e, failed⟩ | ⟨build, built⟩⟩ :=
    workflow.buildFor_walked refl (fun first second => Eq.trans second first) runs amount world
  · rw [failed]
    have cleared : (world.clear workflow.cell).cells workflow.cell = none := by simp [World.clear, Cells.set]
    exact walked.trans cleared
  · rw [built]
    simp [World.store, Cells.set, Except.toOption]

end Workflow

/-- The turn of a nested workflow builds it, and its step has the amount and the value of the build.
-/
theorem Turn.Taken.simulated {purpose : Purpose} {turn : Turn σ} (taken : turn.Taken purpose)
    {inner : Workflow σ} (isInner : turn.entry.generator = inner.asGenerator) {step : BuiltStep}
    (made : turn.step? = some step) :
    ∃ simulated, inner.buildFor purpose turn.amount turn.before = (.ok simulated, turn.after) ∧
      step = .nested inner.cell inner.name simulated.amountOut simulated.value := by
  cases taken with
  | leftOut => cases made
  | made _ ran =>
    obtain rfl := Option.some.inj made
    rw [show _ = inner.asGenerator from isInner, inner.run_asGenerator] at ran
    split at ran
    · cases ran
    case h_2 simulated after built =>
      obtain ⟨rfl, rfl⟩ : BuiltStep.nested inner.cell inner.name simulated.amountOut simulated.value = _ ∧
          after = _ := by simpa using ran
      exact ⟨simulated, built, rfl⟩

/-- Turns of generators that do not have a cell leave the build in it alone. -/
theorem Walked.cells_eq {purpose : Purpose} {name : String} {past : List Recorded} {amount out : Uint256}
    {world last : World σ} {turns : List (Turn σ)}
    (walked : Walked purpose name past amount world turns out last) {cell : CellId}
    (apart : ∀ turn ∈ turns, turn.step?.isSome = true → cell ∉ turn.entry.generator.cells) :
    last.cells cell = world.cells cell := by
  induction walked with
  | done => rfl
  | next taken _ _ ih =>
    rw [ih fun turn later => apart turn (List.mem_cons_of_mem _ later)]
    cases taken with
    | leftOut => rfl
    | @made entry amount context before after step _ ran =>
      have same := entry.generator.run_sameOutside purpose amount context before cell
        (apart _ List.mem_cons_self rfl)
      rwa [ran] at same

end CallWeave
