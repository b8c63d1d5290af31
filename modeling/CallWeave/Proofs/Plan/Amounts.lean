import CallWeave.Proofs.Plan.Matching

/-!
# The amounts of a plan

Going forward, the running amount at every step of a plan is said by the plan, the mode and the amount at the front.
A raw step that is built leaves the amount that it sets, or the one that it found. A step that holds a plan leaves what
the plan leaves, and what is left out leaves the amount alone (`PlanDocument.amountsBehind`).

A build answers with the amount behind its plan. It leaves, at every level that it reaches, a build that lists what its
steps were called and the amount behind each of them, counted from the amount with which the level was built
(`PlanLevel.counted_of_buildFor`).
-/

namespace CallWeave

variable {σ : Type}

namespace PlanDocument

mutual

/-- The running amount behind a plan. -/
def amountBehind (mode : RunMode) : PlanDocument → Uint256 → Uint256
  | .mk _ _ steps, amount => amountsBehind mode steps amount

/-- The running amount behind some steps. -/
def amountsBehind (mode : RunMode) : List PlanStep → Uint256 → Uint256
  | [], amount => amount
  | step :: rest, amount =>
    amountsBehind mode rest
      (if step.takesPart mode then amountLeft mode step.workflow step.amountOut amount else amount)

/-- The running amount that a step leaves that takes part: the one that it sets, or that of the plan it holds. -/
def amountLeft (mode : RunMode) : Option PlanDocument → Option Uint256 → Uint256 → Uint256
  | none, fixed, amount => fixed.getD amount
  | some plan, _, amount => plan.amountBehind mode amount

end

variable {mode : RunMode} {plan : PlanDocument}

theorem amountBehind_eq (mode : RunMode) (plan : PlanDocument) (amount : Uint256) :
    plan.amountBehind mode amount = amountsBehind mode plan.steps amount := by
  obtain ⟨workflow, kind, inside⟩ := plan
  rw [amountBehind, steps]

/-- The amount behind one step. -/
theorem amountsBehind_singleton (step : PlanStep) (amount : Uint256) :
    amountsBehind mode [step] amount =
      if step.takesPart mode then amountLeft mode step.workflow step.amountOut amount else amount := by
  rw [amountsBehind, amountsBehind]

theorem amountsBehind_append (steps more : List PlanStep) (amount : Uint256) :
    amountsBehind mode (steps ++ more) amount = amountsBehind mode more (amountsBehind mode steps amount) := by
  induction steps generalizing amount with
  | nil => rw [List.nil_append, amountsBehind]
  | cons step rest ih => rw [List.cons_append, amountsBehind, amountsBehind, ih]

/-- The amount behind a step is what the step leaves of the amount in front of it. -/
theorem amountsBehind_take_succ {steps : List PlanStep} {place : Nat} {step : PlanStep}
    (isStep : steps[place]? = some step) (amount : Uint256) :
    amountsBehind mode (steps.take (place + 1)) amount =
      amountsBehind mode [step] (amountsBehind mode (steps.take place) amount) := by
  rw [List.take_add_one, isStep, Option.toList_some, amountsBehind_append]

/-- The steps that are built, with their places in the plan. -/
def built (mode : RunMode) (plan : PlanDocument) : List (PlanStep × Nat) :=
  plan.steps.zipIdx.filter fun placed => placed.1.takesPart mode

/-- The names of what is built of a plan, each with the running amount behind it. -/
def summaryIn (mode : RunMode) (start : Uint256) (plan : PlanDocument) : List (String × Uint256) :=
  (plan.built mode).map fun placed =>
    (madeName placed.1, amountsBehind mode (plan.steps.take (placed.2 + 1)) start)

end PlanDocument

namespace PlanLevel

variable {contracts : Contracts} {level deep : PlanLevel} {workflow : Workflow σ} {purpose : Purpose}
  {amount start : Uint256} {world after : World σ} {turns : List (Turn σ)} {build : Build}

/-! ## One turn -/

/-- A build of a level answers with the amount behind its plan. -/
def HasAmount (σ : Type) (contracts : Contracts) (purpose : Purpose) (level : PlanLevel) : Prop :=
  ∀ (workflow : Workflow σ) (amount : Uint256) (world : World σ) (build : Build) (after : World σ),
    level.workflow contracts = .ok workflow → workflow.buildFor purpose amount world = (.ok build, after) →
    build.amountOut = level.plan.amountBehind purpose.mode amount

/-- A turn leaves the amount that its step leaves. -/
def Leaves (mode : RunMode) (step : PlanStep) (turn : Turn σ) : Prop :=
  turn.amountOut = PlanDocument.amountsBehind mode [step] turn.amount

/-- A turn that is taken for a step leaves the amount of the step, when what is nested leaves its own. -/
theorem leaves_of_taken {placed : PlanStep × Nat} {turn : Turn σ} (taken : turn.Taken purpose)
    (entryOf : level.EntryOf contracts placed turn.entry) (mode : turn.context.mode = purpose.mode)
    (amounts : ∀ inner ∈ placed.1.workflow, (level.inside placed.2 placed.1 inner).HasAmount σ contracts purpose) :
    Leaves purpose.mode placed.1 turn := by
  have leavesOut := entryOf.isLeftOut_eq mode
  rw [Leaves, PlanDocument.amountsBehind_singleton]
  cases taken with
  | @leftOut entry amount context world isOut =>
    have isOut : placed.1.takesPart purpose.mode = false := by simpa [Turn.isLeftOut, isOut] using leavesOut
    rw [isOut, Turn.amountOut]
    rfl
  | @made entry amount context before after made isIn ran =>
    have takesPart : placed.1.takesPart purpose.mode = true := by simpa [Turn.isLeftOut, isIn] using leavesOut
    rw [if_pos takesPart, Turn.amountOut, Option.map_some, Option.getD_some]
    obtain ⟨-, becomes⟩ := entryOf
    generalize isGenerator : entry.generator = generator at becomes
    cases becomes with
    | call _ flat isRaw =>
      rw [isGenerator] at ran
      obtain ⟨clipboard, -, rfl⟩ := PlanStepOf.run_rawCall_ok isRaw ran
      rw [flat, PlanDocument.amountLeft, BuiltStep.amountOut]
    | plan _ holds accepted =>
      obtain ⟨simulated, built, isMade⟩ := (Turn.Taken.made isIn ran).simulated isGenerator rfl
      rw [isMade, BuiltStep.amountOut, holds, PlanDocument.amountLeft,
        amounts _ holds _ _ _ _ _ accepted built]
      rfl

/-! ## A whole walk -/

/-- Going through turns that leave the amounts of some steps, the amount in front of each is the one behind the steps
before it. -/
theorem amounts_of_walked {mode : RunMode} {steps : List PlanStep} {name : String} {past : List Recorded}
    {out : Uint256} (leaves : List.Forall₂ (Leaves mode) steps turns)
    (walked : Walked purpose name past amount world turns out after) :
    out = PlanDocument.amountsBehind mode steps amount ∧
      ∀ (place : Nat) (turn : Turn σ), turns[place]? = some turn →
        turn.amount = PlanDocument.amountsBehind mode (steps.take place) amount := by
  induction leaves generalizing past amount world with
  | nil =>
    cases walked
    rw [PlanDocument.amountsBehind]
    exact ⟨rfl, by simp⟩
  | @cons step turn steps turns left _ ih =>
    cases walked with
    | next _ _ walked =>
      obtain ⟨out, amounts⟩ := ih walked
      rw [left, ← PlanDocument.amountsBehind_append] at out
      refine ⟨out, fun place other isTurn => ?_⟩
      cases place with
      | zero =>
        obtain rfl : turn = other := by simpa using isTurn
        rw [List.take_zero, PlanDocument.amountsBehind]
      | succ place =>
        rw [amounts place other (by simpa using isTurn), left, ← PlanDocument.amountsBehind_append]
        rfl

/-- The turns of a build leave the amounts of the steps, when what is nested leaves its own. -/
theorem leaves_of_ran (described : level.Describes contracts workflow)
    (ran : workflow.Ran purpose amount world turns build after)
    (amounts : ∀ (place : Nat) (step : PlanStep) (inner : PlanDocument), level.plan.steps[place]? = some step →
      step.workflow = some inner → (level.inside place step inner).HasAmount σ contracts purpose) :
    List.Forall₂ (Leaves purpose.mode) level.plan.steps turns := by
  rw [← List.zipIdx_map_fst 0 level.plan.steps, List.forall₂_map_left_iff]
  refine forall₂_of_ran described ran fun place step turn isStep isTurn entryOf => ?_
  have isTurnIn := List.mem_of_getElem? isTurn
  exact leaves_of_taken (ran.taken _ isTurnIn) entryOf (ran.context_mode _ isTurnIn)
    fun inner holds => amounts place step inner isStep holds

/-- The turns of a build that goes forward are taken in the order of the plan. -/
theorem walked_forward (ran : workflow.Ran purpose amount world turns build after)
    (forward : purpose.mode.isReversed = false) :
    ∃ last, Walked purpose workflow.name [] amount (world.clear workflow.cell) turns build.amountOut last := by
  obtain ⟨last, walked, -⟩ := ran.walked
  refine ⟨last, ?_⟩
  simpa [Purpose.inWalkOrder, forward] using walked

/-- A build that goes forward answers with the amount behind its plan. -/
theorem hasAmount (forward : purpose.mode.isReversed = false) (level : PlanLevel) :
    level.HasAmount σ contracts purpose := by
  induction level using PlanLevel.induction with
  | level level ih =>
    intro workflow amount world build after accepted built
    obtain ⟨turns, ran⟩ := workflow.buildFor_ok built
    obtain ⟨last, walked⟩ := walked_forward ran forward
    rw [(amounts_of_walked (leaves_of_ran (describes accepted) ran ih) walked).1, PlanDocument.amountBehind_eq]

/-- Going forward, the amounts of the turns are those of the steps. -/
theorem amount_of_ran (accepted : level.workflow contracts = .ok workflow)
    (ran : workflow.Ran purpose amount world turns build after) (forward : purpose.mode.isReversed = false)
    {place : Nat} {turn : Turn σ} (isTurn : turns[place]? = some turn) :
    turn.amount = PlanDocument.amountsBehind purpose.mode (level.plan.steps.take place) amount := by
  obtain ⟨last, walked⟩ := walked_forward ran forward
  have leaves := leaves_of_ran (describes accepted) ran fun _ _ _ _ _ => hasAmount forward _
  exact (amounts_of_walked leaves walked).2 place turn isTurn

/-! ## Builds -/

/-- A build of a level from an amount: it answers with the amount behind the plan, and it lists what is built with the
amount behind each step. -/
structure Counted (mode : RunMode) (start : Uint256) (level : PlanLevel) (build : Build) : Prop where
  amountOut : build.amountOut = level.plan.amountBehind mode start
  summary : build.steps.map (fun step => (step.name, step.amountOut)) = level.plan.summaryIn mode start

/-- What a turn makes, as a summary lists it. -/
def Listed (mode : RunMode) (start : Uint256) (steps : List PlanStep) (placed : PlanStep × Nat) (turn : Turn σ) : Prop :=
  turn.step?.map (fun step => (step.name, step.amountOut)) =
    if placed.1.takesPart mode then
      some (PlanDocument.madeName placed.1, PlanDocument.amountsBehind mode (steps.take (placed.2 + 1)) start)
    else none

/-- What turns record is what a summary lists. -/
theorem summary_of_turns {mode : RunMode} {steps : List PlanStep} {placed : List (PlanStep × Nat)}
    (listed : List.Forall₂ (Listed mode start steps) placed turns) :
    (recordsOf turns).map (fun record => (record.1.name, record.1.amountOut)) =
      (placed.filter fun placed => placed.1.takesPart mode).map fun placed =>
        (PlanDocument.madeName placed.1, PlanDocument.amountsBehind mode (steps.take (placed.2 + 1)) start) := by
  induction listed with
  | nil => rfl
  | @cons placed turn _ _ first _ ih =>
    rw [Listed] at first
    rw [recordsOf_cons, List.map_append, ih, List.filter_cons, Turn.record?]
    cases made : turn.step? with
    | none =>
      rw [made] at first
      rw [if_neg (by intro takesPart; simp [takesPart] at first)]
      rfl
    | some step =>
      rw [made] at first
      split at first
      case isTrue takesPart =>
        rw [if_pos takesPart, List.map_cons, ← Option.some.inj first]
        rfl
      case isFalse => simp at first

/-- Going forward, each turn makes what the summary of the plan lists. -/
theorem listed_of_ran (accepted : level.workflow contracts = .ok workflow)
    (ran : workflow.Ran purpose amount world turns build after) (forward : purpose.mode.isReversed = false) :
    List.Forall₂ (Listed purpose.mode amount level.plan.steps) level.plan.steps.zipIdx turns := by
  have described := describes accepted
  refine forall₂_of_ran described ran fun place step turn isStep isTurn entryOf => ?_
  obtain ⟨other, isOther, turnOf⟩ := exists_of_forall₂_zipIdx (turnsOf accepted ran) isStep
  obtain rfl := Option.some.inj (isTurn.symm.trans isOther)
  rw [Listed]
  cases takesPart : step.takesPart purpose.mode with
  | false =>
    rw [turnOf.leftOut takesPart]
    rfl
  | true =>
    obtain ⟨built, made, makes⟩ := turnOf.made takesPart
    have isTurnIn := List.mem_of_getElem? isTurn
    have left := leaves_of_taken (ran.taken _ isTurnIn) entryOf (ran.context_mode _ isTurnIn)
      fun _ _ => hasAmount forward _
    rw [Leaves, Turn.amountOut, made, Option.map_some, Option.getD_some, amount_of_ran accepted ran forward isTurn,
      ← PlanDocument.amountsBehind_take_succ isStep] at left
    rw [made, if_pos rfl, Option.map_some, makes.name_eq, left]

/-- A build that goes forward is counted from the amount it gets. -/
theorem counted_self (accepted : level.workflow contracts = .ok workflow)
    (built : workflow.buildFor purpose amount world = (.ok build, after))
    (forward : purpose.mode.isReversed = false) : level.Counted purpose.mode amount build := by
  refine ⟨hasAmount forward level workflow amount world build after accepted built, ?_⟩
  obtain ⟨turns, ran⟩ := workflow.buildFor_ok built
  rw [ran.holds.steps, List.map_map]
  exact summary_of_turns (listed_of_ran accepted ran forward)

/-- The levels that a build reaches going forward, each with the amount from which it is built. -/
inductive BuildsFrom (mode : RunMode) : PlanLevel → Uint256 → PlanLevel → Uint256 → Prop
  | self {level : PlanLevel} {amount : Uint256} : BuildsFrom mode level amount level amount
  | within {level deep : PlanLevel} {amount start : Uint256} {place : Nat} {step : PlanStep} {inner : PlanDocument}
      (isStep : level.plan.steps[place]? = some step) (takesPart : step.takesPart mode = true)
      (holds : step.workflow = some inner)
      (deeper : BuildsFrom mode (level.inside place step inner)
        (PlanDocument.amountsBehind mode (level.plan.steps.take place) amount) deep start) :
      BuildsFrom mode level amount deep start

theorem BuildsFrom.reaches {mode : RunMode} (builds : BuildsFrom mode level amount deep start) :
    Reaches mode level deep := by
  induction builds with
  | self => exact .self
  | within isStep takesPart holds _ ih => exact .within isStep takesPart holds ih

/-- After a build that goes forward, every level that it reached holds a build that is counted from its amount. -/
theorem counted_of_buildFor (accepted : level.workflow contracts = .ok workflow)
    (built : workflow.buildFor purpose amount world = (.ok build, after))
    (forward : purpose.mode.isReversed = false) (builds : BuildsFrom purpose.mode level amount deep start) :
    ∃ (below : Workflow σ) (inside : Build), deep.workflow contracts = .ok below ∧
      after.cells deep.cell = some inside ∧ deep.Counted purpose.mode start inside := by
  induction builds generalizing workflow world build after with
  | self =>
    obtain ⟨turns, ran⟩ := workflow.buildFor_ok built
    exact ⟨workflow, build, accepted, (describes accepted).cell ▸ ran.kept, counted_self accepted built forward⟩
  | within isStep takesPart holds deeper ih =>
    obtain ⟨turns, ran⟩ := workflow.buildFor_ok built
    obtain ⟨next, turn, simulated, accepted', isTurn, built'⟩ := built_inside accepted ran isStep takesPart holds
    rw [amount_of_ran accepted ran forward isTurn] at built'
    obtain ⟨below, inside, isBelow, held, counted⟩ := ih accepted' built'
    exact ⟨below, inside, isBelow, (cells_inside accepted ran isTurn deeper.reaches.suffix).trans held, counted⟩

end PlanLevel

end CallWeave
