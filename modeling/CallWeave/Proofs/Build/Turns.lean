import CallWeave.Proofs.Build.Records
import CallWeave.Workflow.Submit

/-!
# Builds as turns

A build gives every generator of the plan one turn: it is left out, or it makes a step. `Walked`
says how the turns follow each other, in the order in which they are taken: the amount and the world
that one leaves are what the next gets, and each sees the records of the turns before it. Forward
the turns are taken in the order of the plan, backward in the opposite one.

`Workflow.buildFor_ok` reads these turns off every build that succeeds. What a build leaves is then
a fact about the records of its turns, in the order of the plan (`Build.Holds`), in whatever
direction they were taken.
-/

namespace CallWeave

/-- The turn of one generator in a build. -/
structure Turn (σ : Type) where
  entry : Entry (Generator σ)
  /-- The running amount when its turn comes. -/
  amount : Uint256
  context : RunContext
  before : World σ
  /-- The step that it makes; missing when it is left out. -/
  step? : Option BuiltStep
  after : World σ

namespace Turn

variable {σ : Type}

/-- Whether the generator is left out. -/
def isLeftOut (turn : Turn σ) : Bool := turn.entry.options.leavesOut turn.amount turn.context

/-- Whether the step of the turn emits a call: it is made, and it is not local. -/
def emits (turn : Turn σ) : Bool := !turn.isLeftOut && !turn.entry.options.onlyLocal

/-- The running amount after the turn. -/
def amountOut (turn : Turn σ) : Uint256 := (turn.step?.map BuiltStep.amountOut).getD turn.amount

/-- What the turn adds to the build. -/
def record? (turn : Turn σ) : Option Recorded := turn.step?.map (·, turn.entry.options)

/-- A turn as the options and the generator have it: nothing happens when the generator is left out,
and otherwise it runs. -/
inductive Taken (purpose : Purpose) : Turn σ → Prop
  | leftOut {entry : Entry (Generator σ)} {amount : Uint256} {context : RunContext} {world : World σ}
      (isOut : entry.options.leavesOut amount context = true) :
      Taken purpose ⟨entry, amount, context, world, none, world⟩
  | made {entry : Entry (Generator σ)} {amount : Uint256} {context : RunContext} {before after : World σ}
      {step : BuiltStep} (isIn : entry.options.leavesOut amount context = false)
      (ran : entry.generator.run purpose amount context before = (.ok step, after)) :
      Taken purpose ⟨entry, amount, context, before, some step, after⟩

end Turn

variable {σ : Type}

/-- The records of some turns. -/
def recordsOf (turns : List (Turn σ)) : List Recorded := turns.filterMap Turn.record?

/-- The turns that emit a call. -/
def emitting (turns : List (Turn σ)) : List (Turn σ) := turns.filter Turn.emits

/-- What a generator sees when some steps were made before its turn. Walking backward there are no
positions and no tags yet. -/
def Purpose.contextAfter (purpose : Purpose) (name : String) (past : List Recorded) : RunContext :=
  if purpose.mode.isReversed then ⟨purpose.mode, purpose.data, past.map Prod.fst, 0, name, []⟩
  else ⟨purpose.mode, purpose.data, past.map Prod.fst, (callsOf past).length, name, tagsOf past⟩

theorem Purpose.contextAfter_mode (purpose : Purpose) (name : String) (past : List Recorded) :
    (purpose.contextAfter name past).mode = purpose.mode := by
  rw [contextAfter]
  split <;> rfl

theorem Purpose.contextAfter_data (purpose : Purpose) (name : String) (past : List Recorded) :
    (purpose.contextAfter name past).data = purpose.data := by
  rw [contextAfter]
  split <;> rfl

/-- Turns in the order in which they are taken. -/
def Purpose.inWalkOrder (purpose : Purpose) (turns : List (Turn σ)) : List (Turn σ) :=
  if purpose.mode.isReversed then turns.reverse else turns

/-- Turns that follow each other, from an amount and a world to an amount and a world, when `past`
was recorded before the first. -/
inductive Walked (purpose : Purpose) (name : String) :
    List Recorded → Uint256 → World σ → List (Turn σ) → Uint256 → World σ → Prop
  | done {past : List Recorded} {amount : Uint256} {world : World σ} :
      Walked purpose name past amount world [] amount world
  | next {past : List Recorded} {turn : Turn σ} {turns : List (Turn σ)} {out : Uint256} {last : World σ}
      (taken : turn.Taken purpose) (sees : turn.context = purpose.contextAfter name past)
      (rest : Walked purpose name (past ++ turn.record?.toList) turn.amountOut turn.after turns out last) :
      Walked purpose name past turn.amount turn.before (turn :: turns) out last

/-- How a build went: every entry of the plan had its turn, and what the build holds are the records
of the turns in the order of the plan. -/
structure Workflow.Ran (workflow : Workflow σ) (purpose : Purpose) (amount : Uint256) (world : World σ)
    (turns : List (Turn σ)) (build : Build) (after : World σ) : Prop where
  entries : turns.map Turn.entry = workflow.entries
  walked : ∃ last, Walked purpose workflow.name [] amount (world.clear workflow.cell)
    (purpose.inWalkOrder turns) build.amountOut last ∧ after = last.store workflow.cell build
  holds : build.Holds (recordsOf turns)

/-- A step is made unless the generator is left out. -/
theorem Turn.Taken.isSome_step? {purpose : Purpose} {turn : Turn σ} (taken : turn.Taken purpose) :
    turn.step?.isSome = !turn.isLeftOut := by
  cases taken with
  | leftOut isOut => simp [Turn.isLeftOut, isOut]
  | made isIn => simp [Turn.isLeftOut, isIn]

/-- An emitting turn made a step. -/
theorem Turn.Taken.step_of_emits {purpose : Purpose} {turn : Turn σ} (taken : turn.Taken purpose)
    (emits : turn.emits = true) : ∃ step, turn.step? = some step := by
  rw [Turn.emits, Bool.and_eq_true, ← taken.isSome_step?] at emits
  exact Option.isSome_iff_exists.mp emits.1

/-! ## Records of turns -/

@[simp] theorem recordsOf_nil : recordsOf ([] : List (Turn σ)) = [] := rfl

theorem recordsOf_cons (turn : Turn σ) (turns : List (Turn σ)) :
    recordsOf (turn :: turns) = turn.record?.toList ++ recordsOf turns := by
  cases made : turn.record? <;> simp [recordsOf, made]

theorem recordsOf_reverse (turns : List (Turn σ)) : recordsOf turns.reverse = (recordsOf turns).reverse :=
  List.filterMap_reverse ..

/-- The turns that emit are those with records that emit. -/
theorem callsOf_recordsOf {purpose : Purpose} {turns : List (Turn σ)}
    (taken : ∀ turn ∈ turns, turn.Taken purpose) :
    callsOf (recordsOf turns) = recordsOf (emitting turns) := by
  induction turns with
  | nil => rfl
  | cons turn turns ih =>
    rw [recordsOf_cons, callsOf_append, ih fun other isIn => taken other (List.mem_cons_of_mem _ isIn)]
    cases taken turn List.mem_cons_self with
    | leftOut isOut => simp [emitting, Turn.emits, Turn.isLeftOut, isOut, Turn.record?, callsOf]
    | @made entry _ _ _ _ step isIn ran =>
      cases isLocal : entry.options.onlyLocal with
      | true => simp [emitting, Turn.emits, isLocal, Turn.record?, callsOf]
      | false =>
        simp [emitting, Turn.emits, Turn.isLeftOut, isIn, isLocal, Turn.record?, callsOf, recordsOf]

/-! ## Walks -/

/-- The turns are the same in whatever direction they are taken. -/
@[simp] theorem Purpose.mem_inWalkOrder {purpose : Purpose} {turns : List (Turn σ)} {turn : Turn σ} :
    turn ∈ purpose.inWalkOrder turns ↔ turn ∈ turns := by
  rw [inWalkOrder]
  split
  · exact List.mem_reverse
  · exact Iff.rfl

namespace Walked

variable {purpose : Purpose} {name : String} {past : List Recorded} {amount out : Uint256}
  {world last : World σ} {turns : List (Turn σ)}

/-- A walk that begins with a turn takes it and goes on. -/
theorem of_cons {turn : Turn σ} (walked : Walked purpose name past amount world (turn :: turns) out last) :
    (turn.amount = amount ∧ turn.before = world) ∧ turn.Taken purpose ∧ turn.context = purpose.contextAfter name past ∧
      Walked purpose name (past ++ turn.record?.toList) turn.amountOut turn.after turns out last := by
  cases walked with
  | next taken sees rest => exact ⟨⟨rfl, rfl⟩, taken, sees, rest⟩

/-- One more turn at the end. -/
theorem snoc (walked : Walked purpose name past amount world turns out last) {turn : Turn σ}
    (taken : turn.Taken purpose) (amountIn : turn.amount = out) (before : turn.before = last)
    (sees : turn.context = purpose.contextAfter name (past ++ recordsOf turns)) :
    Walked purpose name past amount world (turns ++ [turn]) turn.amountOut turn.after := by
  induction walked with
  | done =>
    subst amountIn before
    rw [recordsOf_nil, List.append_nil] at sees
    exact .next taken sees .done
  | next takenFirst seesFirst rest ih =>
    refine .next takenFirst seesFirst (ih amountIn before ?_)
    rw [sees, recordsOf_cons, List.append_assoc]

/-- Every turn of a walk is taken. -/
theorem taken (walked : Walked purpose name past amount world turns out last) :
    ∀ turn ∈ turns, turn.Taken purpose := by
  induction walked with
  | done => simp
  | next takenFirst _ _ ih =>
    intro turn isIn
    rcases List.mem_cons.mp isIn with rfl | later
    · exact takenFirst
    · exact ih turn later

/-- In a walk, a turn sees the records of the turns before it. -/
theorem context_eq {passed rest : List (Turn σ)} {turn : Turn σ}
    (walked : Walked purpose name past amount world (passed ++ turn :: rest) out last) :
    turn.context = purpose.contextAfter name (past ++ recordsOf passed) := by
  induction passed generalizing past amount world with
  | nil =>
    cases walked with
    | next _ sees _ => rw [sees, recordsOf_nil, List.append_nil]
  | cons first passed ih =>
    cases walked with
    | next _ _ walked => rw [ih walked, recordsOf_cons, List.append_assoc]

/-- Every turn of a walk is taken in the mode of the walk. -/
theorem context_mode (walked : Walked purpose name past amount world turns out last) :
    ∀ turn ∈ turns, turn.context.mode = purpose.mode := by
  intro turn isTurn
  obtain ⟨passed, rest, rfl⟩ := List.append_of_mem isTurn
  rw [walked.context_eq, purpose.contextAfter_mode]

end Walked

/-- Going forward, the context of a build is what its records say. -/
theorem Build.Holds.forwardContext {purpose : Purpose} (forward : purpose.mode.isReversed = false)
    {past : List Recorded} {build : Build} (holds : build.Holds past) (name : String) :
    purpose.forwardContext name build = purpose.contextAfter name past := by
  simp [Purpose.forwardContext, Purpose.contextAfter, forward, holds.steps, holds.emitted_length, holds.tags]

/-- Going backward, it is what the later steps say, the last of them first. -/
theorem Purpose.backwardContext_eq {purpose : Purpose} (backward : purpose.mode.isReversed = true)
    (name : String) (later : List Recorded) :
    purpose.backwardContext name later = purpose.contextAfter name later.reverse := by
  simp [Purpose.backwardContext, Purpose.contextAfter, backward]

/-- A walk forward that succeeds is a sequence of turns, and what it records comes behind the past.
-/
theorem walk_ok {purpose : Purpose} (forward : purpose.mode.isReversed = false) {name : String}
    {entries : List (Entry (Generator σ))} {amount : Uint256} {build built : Build} {past : List Recorded}
    {world after : World σ} (holds : build.Holds past)
    (walked : walk purpose name entries amount build world = (.ok built, after)) :
    ∃ turns, turns.map Turn.entry = entries ∧
      Walked purpose name past amount world turns built.amountOut after ∧
      built.Holds (past ++ recordsOf turns) := by
  induction entries generalizing amount build past world with
  | nil =>
    simp only [walk, Prod.mk.injEq, Except.ok.injEq] at walked
    obtain ⟨rfl, rfl⟩ := walked
    refine ⟨[], rfl, .done, ?_⟩
    rw [recordsOf_nil, List.append_nil]
    exact holds.withAmount amount
  | cons entry rest ih =>
    obtain ⟨generator, options⟩ := entry
    simp only [walk, holds.forwardContext forward] at walked
    split at walked
    case isTrue isOut =>
      obtain ⟨turns, entries, walked, built⟩ := ih holds walked
      let turn : Turn σ := ⟨⟨generator, options⟩, amount, purpose.contextAfter name past, world, none, world⟩
      refine ⟨turn :: turns, ?_, ?_, ?_⟩
      · rw [List.map_cons, entries]
      · exact .next (.leftOut isOut) rfl (by simpa [Turn.record?, Turn.amountOut] using walked)
      · rw [recordsOf_cons]
        exact built
    case isFalse isIn =>
      split at walked
      · cases walked
      case h_2 step after ran =>
        split at walked
        · cases walked
        case h_2 next recorded =>
          obtain ⟨turns, entries, walked, built⟩ := ih (holds.record recorded) walked
          let turn : Turn σ :=
            ⟨⟨generator, options⟩, amount, purpose.contextAfter name past, world, some step, after⟩
          refine ⟨turn :: turns, ?_, ?_, ?_⟩
          · rw [List.map_cons, entries]
          · exact .next (.made (by simpa using isIn) ran) rfl walked
          · rwa [recordsOf_cons, ← List.append_assoc]

/-- A walk backward that succeeds is a sequence of turns, the last generator's first; its outcome
are the records in the order of the plan. -/
theorem walkBack_ok {purpose : Purpose} (backward : purpose.mode.isReversed = true) {name : String}
    {entries : List (Entry (Generator σ))} {amount out : Uint256} {world after : World σ} {later : List Recorded}
    (walked : walkBack purpose name entries amount world = (.ok (out, later), after)) :
    ∃ turns, turns.map Turn.entry = entries ∧
      Walked purpose name [] amount world turns.reverse out after ∧ recordsOf turns = later := by
  induction entries generalizing out after later with
  | nil =>
    simp only [walkBack, Prod.mk.injEq, Except.ok.injEq] at walked
    obtain ⟨⟨rfl, rfl⟩, rfl⟩ := walked
    exact ⟨[], rfl, .done, rfl⟩
  | cons entry rest ih =>
    obtain ⟨generator, options⟩ := entry
    simp only [walkBack] at walked
    split at walked
    · cases walked
    case h_2 running behind middle walkedRest =>
      obtain ⟨turns, entries, walkedTurns, records⟩ := ih walkedRest
      -- the turns behind were taken before this one, the last of them first
      have sees : purpose.backwardContext name behind =
          purpose.contextAfter name ([] ++ recordsOf turns.reverse) := by
        rw [List.nil_append, recordsOf_reverse, records, purpose.backwardContext_eq backward]
      split at walked
      case isTrue isOut =>
        simp only [Prod.mk.injEq, Except.ok.injEq] at walked
        obtain ⟨⟨rfl, rfl⟩, rfl⟩ := walked
        let turn : Turn σ :=
          ⟨⟨generator, options⟩, running, purpose.backwardContext name behind, middle, none, middle⟩
        refine ⟨turn :: turns, ?_, ?_, ?_⟩
        · rw [List.map_cons, entries]
        · rw [List.reverse_cons]
          exact walkedTurns.snoc (.leftOut isOut) rfl rfl sees
        · rw [recordsOf_cons]
          exact records
      case isFalse isIn =>
        split at walked
        · cases walked
        case h_2 step done ran =>
          simp only [Prod.mk.injEq, Except.ok.injEq] at walked
          obtain ⟨⟨rfl, rfl⟩, rfl⟩ := walked
          let turn : Turn σ :=
            ⟨⟨generator, options⟩, running, purpose.backwardContext name behind, middle, some step, done⟩
          refine ⟨turn :: turns, ?_, ?_, ?_⟩
          · rw [List.map_cons, entries]
          · rw [List.reverse_cons]
            exact walkedTurns.snoc (.made (by simpa using isIn) ran) rfl rfl sees
          · rw [recordsOf_cons, records]
            rfl

/-! ## Builds -/

namespace Workflow

variable {workflow : Workflow σ} {purpose : Purpose} {amount : Uint256} {world after : World σ} {built : Build}

/-- Every build that succeeds is a sequence of turns. -/
theorem buildFor_ok (ok : workflow.buildFor purpose amount world = (.ok built, after)) :
    ∃ turns, workflow.Ran purpose amount world turns built after := by
  simp only [buildFor, buildInto] at ok
  cases direction : purpose.mode.isReversed with
  | false =>
    simp only [direction, Bool.false_eq_true, ↓reduceIte] at ok
    split at ok
    · cases ok
    case h_2 build last walked =>
      obtain ⟨rfl, rfl⟩ : build = built ∧ last.store workflow.cell build = after := by simpa using ok
      obtain ⟨turns, entries, walked, holds⟩ := walk_ok direction .empty walked
      refine ⟨turns, entries, ⟨last, ?_, rfl⟩, holds⟩
      simpa [Purpose.inWalkOrder, direction] using walked
  | true =>
    simp only [direction, ↓reduceIte] at ok
    split at ok
    · cases ok
    case h_2 build last walked =>
      obtain ⟨rfl, rfl⟩ : build = built ∧ last.store workflow.cell build = after := by simpa using ok
      split at walked
      · cases walked
      case h_2 walk middle walkedBack =>
        obtain ⟨recorded, rfl⟩ := Prod.mk.inj walked
        obtain ⟨turns, entries, walkedTurns, records⟩ := walkBack_ok direction walkedBack
        simp only [BackwardWalk.build] at recorded
        cases all : Build.recordAll workflow.name walk.2 .empty with
        | error e => simp [all, Except.map] at recorded
        | ok plain =>
          obtain rfl : { plain with amountOut := walk.1 } = build := by simpa [all, Except.map] using recorded
          have holds := Build.Holds.empty.recordAll all
          refine ⟨turns, entries, ⟨middle, ?_, rfl⟩, ?_⟩
          · simpa [Purpose.inWalkOrder, direction] using walkedTurns
          · rw [records]
            exact holds.withAmount walk.1

/-- The answer of a build is the running amount that is kept, or the error. -/
theorem build_eq (workflow : Workflow σ) (amount : Uint256) (mode : RunMode) (data : RunData) (world : World σ) :
    workflow.build amount mode data world =
      ((workflow.buildFor ⟨mode, data⟩ amount world).1.map Build.amountOut,
        (workflow.buildFor ⟨mode, data⟩ amount world).2) := by
  rw [build]
  obtain ⟨outcome, after⟩ := workflow.buildFor ⟨mode, data⟩ amount world
  cases outcome <;> rfl

/-- A build has an answer exactly if it is kept. -/
theorem exists_build_ok_iff {mode : RunMode} {data : RunData} :
    (∃ out, (workflow.build amount mode data world).1 = .ok out) ↔
      ∃ built, (workflow.buildFor ⟨mode, data⟩ amount world).1 = .ok built := by
  rw [build_eq]
  cases (workflow.buildFor ⟨mode, data⟩ amount world).1 <;> simp [Except.map]

/-- The answer of a build is the running amount that it keeps. -/
theorem build_ok {mode : RunMode} {data : RunData} {out : Uint256}
    (ok : workflow.build amount mode data world = (.ok out, after)) :
    ∃ built, built.amountOut = out ∧ workflow.buildFor ⟨mode, data⟩ amount world = (.ok built, after) := by
  simp only [build] at ok
  split at ok
  · cases ok
  case h_2 built last done =>
    obtain ⟨rfl, rfl⟩ : built.amountOut = out ∧ last = after := by simpa using ok
    exact ⟨built, rfl, done⟩

/-- It fails as the build does. -/
theorem build_error {mode : RunMode} {data : RunData} {e : WorkflowError}
    (failed : workflow.build amount mode data world = (.error e, after)) :
    workflow.buildFor ⟨mode, data⟩ amount world = (.error e, after) := by
  simp only [build] at failed
  split at failed
  case h_1 cause last done =>
    obtain ⟨rfl, rfl⟩ : cause = e ∧ last = after := by simpa using failed
    exact done
  · simp at failed

end Workflow

namespace Workflow.Ran

variable {workflow : Workflow σ} {purpose : Purpose} {amount : Uint256} {world after : World σ} {build : Build}
  {turns : List (Turn σ)}

/-- Every turn of a build is taken. -/
theorem taken (ran : workflow.Ran purpose amount world turns build after) :
    ∀ turn ∈ turns, turn.Taken purpose := by
  obtain ⟨last, walked, -⟩ := ran.walked
  exact fun turn isIn => walked.taken turn (Purpose.mem_inWalkOrder.mpr isIn)

/-- The build stands in the cell of the workflow afterwards. -/
theorem kept (ran : workflow.Ran purpose amount world turns build after) :
    after.cells workflow.cell = some build := by
  obtain ⟨last, -, rfl⟩ := ran.walked
  simp [World.store, Cells.set]

/-- It is what is observed of the workflow. -/
theorem currentOrEmpty (ran : workflow.Ran purpose amount world turns build after) :
    workflow.currentOrEmpty after.cells = build := by
  rw [Workflow.currentOrEmpty, ran.kept, Option.getD_some]

/-- Every turn of a build is taken in the mode of the build. -/
theorem context_mode (ran : workflow.Ran purpose amount world turns build after) :
    ∀ turn ∈ turns, turn.context.mode = purpose.mode := by
  obtain ⟨last, walked, -⟩ := ran.walked
  exact fun turn isIn => walked.context_mode turn (Purpose.mem_inWalkOrder.mpr isIn)

/-- A turn sees the tags of those before it in the order of the plan, or none when the build goes backward.
-/
theorem context_tags {before behind : List (Turn σ)} {turn : Turn σ}
    (ran : workflow.Ran purpose amount world (before ++ turn :: behind) build after) :
    turn.context.tags = if purpose.mode.isReversed then [] else tagsOf (recordsOf before) := by
  obtain ⟨last, walked, -⟩ := ran.walked
  cases direction : purpose.mode.isReversed with
  | false =>
    simp only [Purpose.inWalkOrder, direction, Bool.false_eq_true, ↓reduceIte] at walked
    rw [walked.context_eq, Purpose.contextAfter]
    simp [direction]
  | true =>
    simp only [Purpose.inWalkOrder, direction, ↓reduceIte, List.reverse_append, List.reverse_cons,
      List.append_assoc, List.singleton_append] at walked
    rw [walked.context_eq, Purpose.contextAfter]
    simp [direction]

end Workflow.Ran

end CallWeave
