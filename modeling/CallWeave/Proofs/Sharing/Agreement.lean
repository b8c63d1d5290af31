import CallWeave.Proofs.Sharing.Frame

/-!
# Builds that agree

Two builds of one workflow, each for a purpose of its own and in a world of its own, have the same outcome
when every generator takes part in both or in neither and answers both alike
(`Workflow.buildFor_agrees`). What the generators may look at is a relation between the contexts of the two
builds; it has to hold between any two that are alike in the steps recorded so far.
-/

namespace CallWeave

variable {σ : Type}

/-- Two purposes walk in one direction, and show a generator behind the same steps contexts that are alike. -/
structure Purpose.Alike (alike : RunContext → RunContext → Prop) (one other : Purpose) : Prop where
  direction : one.mode.isReversed = other.mode.isReversed
  forward : ∀ name build, alike (one.forwardContext name build) (other.forwardContext name build)
  backward : ∀ name later, alike (one.backwardContext name later) (other.backwardContext name later)

/-- A generator answers for two purposes alike, whatever is the rest of the world. -/
def Generator.Agrees (alike : RunContext → RunContext → Prop) (one other : Purpose) (generator : Generator σ) :
    Prop :=
  ∀ amount context context' world world', alike context context' →
    (generator.run one amount context world).1 = (generator.run other amount context' world').1

/-- An entry takes part for two purposes alike. -/
structure Entry.Agrees (alike : RunContext → RunContext → Prop) (one other : Purpose)
    (entry : Entry (Generator σ)) : Prop where
  leavesOut : ∀ amount context context', alike context context' →
    entry.options.leavesOut amount context = entry.options.leavesOut amount context'
  answers : entry.generator.Agrees alike one other

/-- What two runs with one outcome come to. -/
private theorem exists_outcome {α β : Type} {here there : α × β} (same : here.1 = there.1) :
    ∃ outcome after after', here = (outcome, after) ∧ there = (outcome, after') :=
  ⟨here.1, here.2, there.2, rfl, Prod.ext same.symm rfl⟩

section Walks

variable {alike : RunContext → RunContext → Prop} {one other : Purpose} (purposes : one.Alike alike other)
include purposes

/-- Walks forward of entries that agree have one outcome. -/
theorem walk_agrees {entries : List (Entry (Generator σ))} (agree : ∀ entry ∈ entries, entry.Agrees alike one other)
    (name : String) (amount : Uint256) (build : Build) (world world' : World σ) :
    (walk one name entries amount build world).1 = (walk other name entries amount build world').1 := by
  induction entries generalizing amount build world world' with
  | nil => simp only [walk]
  | cons entry rest ih =>
    have ih := ih fun later isIn => agree later (List.mem_cons_of_mem _ isIn)
    have first := agree entry List.mem_cons_self
    have contexts := purposes.forward name build
    have answers := first.answers amount _ _ world world' contexts
    simp only [walk, first.leavesOut amount _ _ contexts]
    split
    · exact ih amount build world world'
    · -- the two runs answer alike, and behind the answer the walks go on from one build
      obtain ⟨answer, after, after', here, there⟩ := exists_outcome answers
      simp only [here, there]
      cases answer with
      | error e => rfl
      | ok step =>
        cases recorded : build.record name entry.options step with
        | error e => simp only [recorded]
        | ok longer =>
          simp only [recorded]
          exact ih step.amountOut longer after after'

/-- Walks backward of entries that agree have one outcome. -/
theorem walkBack_agrees {entries : List (Entry (Generator σ))}
    (agree : ∀ entry ∈ entries, entry.Agrees alike one other) (name : String) (amount : Uint256)
    (world world' : World σ) :
    (walkBack one name entries amount world).1 = (walkBack other name entries amount world').1 := by
  induction entries with
  | nil => simp only [walkBack]
  | cons entry rest ih =>
    have ih := ih fun later isIn => agree later (List.mem_cons_of_mem _ isIn)
    have first := agree entry List.mem_cons_self
    obtain ⟨behind, middle, middle', here, there⟩ := exists_outcome ih
    simp only [walkBack, here, there]
    cases behind with
    | error e => rfl
    | ok walked =>
      obtain ⟨running, later⟩ := walked
      have contexts := purposes.backward name later
      have answers := first.answers running _ _ middle middle' contexts
      simp only [first.leavesOut running _ _ contexts]
      split
      · rfl
      · obtain ⟨answer, after, after', here, there⟩ := exists_outcome answers
        simp only [here, there]
        cases answer <;> rfl

/-- Builds of entries that agree have one outcome. -/
theorem Workflow.buildFor_agrees {workflow : Workflow σ}
    (agree : ∀ entry ∈ workflow.entries, entry.Agrees alike one other) (amount : Uint256) (world world' : World σ) :
    (workflow.buildFor one amount world).1 = (workflow.buildFor other amount world').1 := by
  have forward := walk_agrees purposes agree workflow.name amount .empty (world.clear workflow.cell)
    (world'.clear workflow.cell)
  have backward := walkBack_agrees purposes agree workflow.name amount (world.clear workflow.cell)
    (world'.clear workflow.cell)
  by_cases isReversed : other.mode.isReversed = true
  · obtain ⟨walked, after, after', here, there⟩ := exists_outcome backward
    simp only [buildFor, buildInto, purposes.direction, if_pos isReversed, here, there]
    cases walked with
    | error e => rfl
    | ok walked =>
      simp only
      cases BackwardWalk.build workflow.name walked <;> rfl
  · obtain ⟨outcome, after, after', here, there⟩ := exists_outcome forward
    simp only [buildFor, buildInto, purposes.direction, if_neg isReversed, here, there]
    cases outcome <;> rfl

/-- A workflow whose entries agree answers alike as a step of another. -/
theorem Workflow.agrees_asGenerator {workflow : Workflow σ}
    (agree : ∀ entry ∈ workflow.entries, entry.Agrees alike one other) :
    workflow.asGenerator.Agrees alike one other := by
  intro amount context context' world world' _
  obtain ⟨outcome, after, after', here, there⟩ :=
    exists_outcome (workflow.buildFor_agrees purposes agree amount world world')
  rw [workflow.run_asGenerator, workflow.run_asGenerator, here, there]
  cases outcome <;> rfl

end Walks

end CallWeave
