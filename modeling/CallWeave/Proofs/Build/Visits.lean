import CallWeave.Proofs.Build.Failure

/-!
# Who is asked, at any depth

`Workflow.Asks` tells who is asked by a workflow itself. A nested workflow that is asked asks others in its turn, and
`Workflow.Visits` tells, for a build, which generators that answer by themselves are asked and with what. An address, the
places from the outside in, tells where each stands. Behind a generator that fails nobody is visited, however deep it
stands (`Workflow.Fails.not_visits_behind`).

The visits of a build are those of its turns, one after another (`Workflow.visitsAmong_cons`). A turn that leaves its
generator out has none, any other has those of the run of its generator, and there are none behind a turn that fails.
-/

namespace CallWeave

variable {σ : Type}

/-! ## Visits and failures -/

/-- One address comes behind another in the direction of a build: where they part, its place does. -/
inductive RunMode.Behind (mode : RunMode) : List Nat → List Nat → Prop
  | here {place later : Nat} {address other : List Nat} (isLater : mode.TakesLater place later) :
      Behind mode (place :: address) (later :: other)
  | inside {place : Nat} {address other : List Nat} (isInside : Behind mode address other) :
      Behind mode (place :: address) (place :: other)

/-- How a generator that answers by itself is asked. -/
structure Visit (σ : Type) where
  run : StepRun σ
  /-- The running amount. -/
  amount : Uint256
  context : RunContext
  before : World σ

/-- In a build, a generator that answers by itself is asked; the address holds the places that lead to it. -/
inductive Workflow.Visits (purpose : Purpose) : Workflow σ → Uint256 → World σ → List Nat → Visit σ → Prop
  | leaf {workflow : Workflow σ} {amount running : Uint256} {world before : World σ} {place : Nat} {name : String}
      {run : StepRun σ} {context : RunContext}
      (asked : workflow.Asks purpose amount world place (.leaf name run) running context before) :
      Visits purpose workflow amount world [place] ⟨run, running, context, before⟩
  | inside {workflow inner : Workflow σ} {amount running : Uint256} {world before : World σ} {place : Nat}
      {context : RunContext} {address : List Nat} {visit : Visit σ}
      (asked : workflow.Asks purpose amount world place inner.asGenerator running context before)
      (deeper : Visits purpose inner running before address visit) :
      Visits purpose workflow amount world (place :: address) visit

/-- In a build, a generator is asked and fails, and the world is left so. It may be a workflow; the address holds the
places that lead to it. -/
inductive Workflow.Fails (purpose : Purpose) : Workflow σ → Uint256 → World σ → List Nat → World σ → Prop
  | here {workflow : Workflow σ} {amount running : Uint256} {world before after : World σ} {place : Nat}
      {generator : Generator σ} {context : RunContext} {e : WorkflowError}
      (asked : workflow.Asks purpose amount world place generator running context before)
      (failed : generator.run purpose running context before = (.error e, after)) :
      Fails purpose workflow amount world [place] after
  | inside {workflow inner : Workflow σ} {amount running : Uint256} {world before after : World σ} {place : Nat}
      {context : RunContext} {address : List Nat}
      (asked : workflow.Asks purpose amount world place inner.asGenerator running context before)
      (deeper : Fails purpose inner running before address after) :
      Fails purpose workflow amount world (place :: address) after

/-- In a run of a generator, one that answers by itself is asked: it itself, or one that is asked in its build. -/
def Generator.Visits (purpose : Purpose) (generator : Generator σ) (amount : Uint256) (context : RunContext)
    (world : World σ) (address : List Nat) (visit : Visit σ) : Prop :=
  match generator with
  | .leaf _ run => address = [] ∧ visit = ⟨run, amount, context, world⟩
  | .nested cell name encoder entries =>
    Workflow.Visits purpose ⟨cell, name, encoder, entries⟩ amount world address visit

namespace Workflow

variable {workflow : Workflow σ} {purpose : Purpose} {amount running : Uint256} {world before : World σ} {place : Nat}
  {generator : Generator σ} {context : RunContext} {address : List Nat} {visit : Visit σ}

/-- Who is asked in a build is asked in the run of an entry that is asked. -/
theorem visits_iff :
    Visits purpose workflow amount world address visit ↔
      ∃ place inside generator running context before, address = place :: inside ∧
        workflow.Asks purpose amount world place generator running context before ∧
        generator.Visits purpose running context before inside visit := by
  constructor
  · rintro (asked | ⟨asked, deeper⟩)
    · exact ⟨_, [], _, _, _, _, rfl, asked, rfl, rfl⟩
    · exact ⟨_, _, _, _, _, _, rfl, asked, deeper⟩
  · rintro ⟨place, inside, generator, running, context, before, rfl, asked, visits⟩
    cases generator with
    | leaf name run =>
      obtain ⟨rfl, rfl⟩ := visits
      exact .leaf asked
    | nested cell name encoder entries =>
      exact .inside (show workflow.Asks purpose amount world place (asGenerator ⟨cell, name, encoder, entries⟩) _ _ _
        from asked) visits

/-- The generator at a place is asked once, and with the same. -/
theorem Asks.unique (asked : workflow.Asks purpose amount world place generator running context before)
    {generator' : Generator σ} {running' : Uint256} {context' : RunContext} {before' : World σ}
    (asked' : workflow.Asks purpose amount world place generator' running' context' before') :
    generator = generator' ∧ running = running' ∧ context = context' ∧ before = before' := by
  obtain ⟨turn, options, isEntry, -⟩ := asked
  obtain ⟨turn', options', isEntry', -⟩ := asked'
  obtain ⟨rfl, -⟩ := Entry.mk.inj (Option.some.inj (isEntry.symm.trans isEntry'))
  exact ⟨rfl, turn.unique turn'⟩

/-- Who is asked at a place is asked in the run of the generator there. -/
theorem Asks.visits_iff (asked : workflow.Asks purpose amount world place generator running context before) :
    Visits purpose workflow amount world (place :: address) visit ↔
      generator.Visits purpose running context before address visit := by
  rw [Workflow.visits_iff]
  constructor
  · rintro ⟨place', inside, generator', running', context', before', same, asked', visits⟩
    obtain ⟨rfl, rfl⟩ := List.cons.inj same
    obtain ⟨rfl, rfl, rfl, rfl⟩ := asked.unique asked'
    exact visits
  · exact fun visits => ⟨_, _, _, _, _, _, rfl, asked, visits⟩

/-- A generator that answers by itself fails where it is asked. -/
theorem Visits.fails (visits : Visits purpose workflow amount world address visit) {e : WorkflowError} {outside : σ}
    (failed : visit.run visit.amount visit.context visit.before.outside = (.error e, outside)) :
    Fails purpose workflow amount world address ⟨visit.before.cells, outside⟩ := by
  induction visits with
  | leaf asked => exact .here asked (FailsAt.run_leaf_error failed)
  | inside asked _ ih => exact .inside asked (ih failed)

namespace Fails

variable {after : World σ}

/-- The build fails, and leaves the world as the generator has left it. -/
theorem exists_buildFor_error (fails : Fails purpose workflow amount world address after) :
    ∃ e, workflow.buildFor purpose amount world = (.error e, after) := by
  induction fails with
  | here asked failed => exact ⟨_, asked.buildFor_error failed⟩
  | inside asked _ ih =>
    obtain ⟨e, failed⟩ := ih
    exact ⟨_, asked.buildFor_error (FailsAt.run_asGenerator_error failed)⟩

/-- Nobody is asked behind the generator. -/
theorem not_visits_behind (fails : Fails purpose workflow amount world address after) {behind : List Nat}
    (isBehind : purpose.mode.Behind address behind) : ¬ Visits purpose workflow amount world behind visit := by
  rw [visits_iff]
  rintro ⟨place', inside, generator', running', context', before', rfl, asked', visits⟩
  induction fails generalizing place' inside generator' running' context' before' with
  | here asked failed =>
    cases isBehind with
    | here isLater => exact asked.not_asks_later failed isLater asked'
    | inside isInside => cases isInside
  | inside asked deeper ih =>
    cases isBehind with
    | here isLater =>
      obtain ⟨e, failed⟩ := deeper.exists_buildFor_error
      exact asked.not_asks_later (FailsAt.run_asGenerator_error failed) isLater asked'
    | inside isInside =>
      obtain ⟨rfl, rfl, rfl, rfl⟩ := asked.unique asked'
      obtain ⟨place, rest, generator, running, context, before, rfl, asked', visits⟩ := visits_iff.mp visits
      exact ih place rest generator running context before isInside asked' visits

end Fails

end Workflow

/-! ## The visits of a turn -/

namespace Workflow

variable {workflow : Workflow σ} {purpose : Purpose}

/-- The visits at the places of some entries. -/
def VisitsAmong (workflow : Workflow σ) (purpose : Purpose) (amount : Uint256) (world : World σ)
    (entries : List (Entry (Generator σ) × Nat)) (address : List Nat) (visit : Visit σ) : Prop :=
  ∃ placed ∈ entries, ∃ inside, address = placed.2 :: inside ∧ Visits purpose workflow amount world address visit

theorem visitsAmong_cons {first : Entry (Generator σ) × Nat} {rest : List (Entry (Generator σ) × Nat)}
    {amount : Uint256} {world : World σ} (address : List Nat) (visit : Visit σ) :
    (workflow.VisitsAmong purpose amount world [first] address visit ∨
        workflow.VisitsAmong purpose amount world rest address visit) ↔
      workflow.VisitsAmong purpose amount world (first :: rest) address visit := by
  simp only [VisitsAmong, List.mem_cons, List.not_mem_nil, or_false, exists_eq_or_imp, exists_eq_left]

section Turn

variable {front rest : List (Entry (Generator σ) × Nat)} {entry : Entry (Generator σ)} {place : Nat}
  {running amount : Uint256} {past : List Recorded} {world before : World σ}
  (split : workflow.placed purpose.mode = front ++ (entry, place) :: rest)
  (inFront : takeTurns purpose workflow.name (front.map Prod.fst) amount [] (world.clear workflow.cell) =
    (.ok (running, past), before))
include split inFront

/-- Nobody is asked in a turn that leaves its generator out. -/
theorem not_visits_of_leavesOut
    (isOut : entry.options.leavesOut running (purpose.contextAfter workflow.name past) = true) (address : List Nat)
    (visit : Visit σ) : ¬ workflow.VisitsAmong purpose amount world [(entry, place)] address visit := by
  rintro ⟨_, isIn, inside, rfl, visits⟩
  obtain rfl := List.mem_singleton.mp isIn
  obtain ⟨_, _, _, _, _, _, same, ⟨turn, _, isThere, takesPart⟩, -⟩ := visits_iff.mp visits
  obtain ⟨rfl, -⟩ := List.cons.inj same
  have isEntry := mem_placed.mp (split ▸ List.mem_append_right front List.mem_cons_self)
  obtain rfl := Option.some.inj (isEntry.symm.trans isThere)
  obtain ⟨rfl, rfl, -⟩ := ((turnComes_iff split).mpr ⟨past, inFront, rfl⟩).unique turn
  rw [isOut] at takesPart
  cases takesPart

/-- In any other turn those are asked that are asked in the run of its generator. -/
theorem visitsAmong_singleton
    (isIn : entry.options.leavesOut running (purpose.contextAfter workflow.name past) = false) (address : List Nat)
    (visit : Visit σ) :
    (∃ inside, address = place :: inside ∧
        entry.generator.Visits purpose running (purpose.contextAfter workflow.name past) before inside visit) ↔
      workflow.VisitsAmong purpose amount world [(entry, place)] address visit := by
  have isEntry := mem_placed.mp (split ▸ List.mem_append_right front List.mem_cons_self)
  have asked : workflow.Asks purpose amount world place entry.generator running
      (purpose.contextAfter workflow.name past) before :=
    ⟨(turnComes_iff split).mpr ⟨past, inFront, rfl⟩, entry.options, isEntry, isIn⟩
  constructor
  · rintro ⟨inside, rfl, visits⟩
    exact ⟨_, List.mem_singleton_self _, inside, rfl, asked.visits_iff.mpr visits⟩
  · rintro ⟨_, isThere, inside, rfl, visits⟩
    obtain rfl := List.mem_singleton.mp isThere
    exact ⟨inside, rfl, asked.visits_iff.mp visits⟩

/-- Nobody is asked behind a turn that fails. -/
theorem not_visits_of_stop {e : WorkflowError} {after : World σ}
    (stops : takeTurn purpose workflow.name entry running past before = (.error e, after)) (address : List Nat)
    (visit : Visit σ) : ¬ workflow.VisitsAmong purpose amount world rest address visit := by
  rintro ⟨⟨other, later⟩, isBehind, inside, rfl, visits⟩
  obtain ⟨_, _, _, _, _, _, same, ⟨turn, -⟩, -⟩ := visits_iff.mp visits
  obtain ⟨rfl, -⟩ := List.cons.inj same
  exact not_turnComes_of_stop split inFront stops isBehind turn

end Turn

end Workflow

end CallWeave
