import CallWeave.Proofs.Build.Omission
import CallWeave.Proofs.Build.Stops
import CallWeave.Proofs.Build.Tolerance

/-!
# Builds in walk order

A build asks its generators in the order of the plan or in the opposite one, and the two walks are written down apart.
Told in the order in which the turns come they are one (`takeTurns`): a turn sees what was recorded before it, leaves
its generator out or asks it, and the next turn goes on from there. Every build is this walk, and the steps are recorded
in the order of the plan (`Workflow.buildFor_eq_takeTurns`). A turn comes when the walk along the entries before it
succeeds (`Workflow.turnComes_iff`).
-/

namespace CallWeave

variable {σ : Type}

/-! ## Places -/

/-- One place comes behind another in the direction of a build. -/
def RunMode.TakesLater (mode : RunMode) (place later : Nat) : Prop :=
  if mode.isReversed then later < place else place < later

/-- Of two places, not each comes behind the other. -/
theorem RunMode.TakesLater.asymm {mode : RunMode} {place later : Nat} (isLater : mode.TakesLater place later) :
    ¬ mode.TakesLater later place := by
  cases direction : mode.isReversed <;> simp only [TakesLater, direction] at isLater ⊢ <;>
    simp only [Bool.false_eq_true, ↓reduceIte] at isLater ⊢ <;> omega

/-- The entries of a plan with their places, in the order in which their turns come. -/
def Workflow.placed (workflow : Workflow σ) (mode : RunMode) : List (Entry (Generator σ) × Nat) :=
  mode.inWalkOrder workflow.entries.zipIdx

/-- Around an item among the numbered ones. -/
theorem zipIdx_split {α : Type} {items : List α} {front rest : List (α × Nat)} {item : α} {place : Nat}
    (split : items.zipIdx = front ++ (item, place) :: rest) :
    front.map Prod.fst = items.take place ∧ rest.map Prod.fst = items.drop (place + 1) := by
  have here : items.zipIdx[front.length]? = some (item, place) := by
    rw [split, List.getElem?_append_right le_rfl, Nat.sub_self, List.getElem?_cons_zero]
  rw [List.getElem?_zipIdx, Nat.zero_add, Option.map_eq_some_iff] at here
  obtain ⟨_, -, same⟩ := here
  obtain ⟨-, rfl⟩ := Prod.mk.inj same
  have isFront : items.zipIdx.take front.length = front := by rw [split, List.take_left]
  have isRest : items.zipIdx.drop (front.length + 1) = rest := by
    rw [split, List.drop_append, List.drop_of_length_le (Nat.le_succ _), List.nil_append, Nat.add_sub_cancel_left,
      List.drop_succ_cons, List.drop_zero]
  constructor
  · rw [← List.zipIdx_map_fst 0 items, ← List.map_take, isFront]
  · rw [← List.zipIdx_map_fst 0 items, ← List.map_drop, isRest]

namespace Workflow

variable {workflow : Workflow σ} {mode : RunMode} {front rest : List (Entry (Generator σ) × Nat)}
  {entry : Entry (Generator σ)} {place : Nat}

theorem map_fst_placed (workflow : Workflow σ) (mode : RunMode) :
    (workflow.placed mode).map Prod.fst = mode.inWalkOrder workflow.entries := by
  rw [placed, RunMode.map_inWalkOrder, List.zipIdx_map_fst]

/-- The places stand in the order of the walk. -/
theorem pairwise_placed (workflow : Workflow σ) (mode : RunMode) :
    (workflow.placed mode).Pairwise fun one other => mode.TakesLater one.2 other.2 := by
  have inOrder : workflow.entries.zipIdx.Pairwise fun one other => one.2 < other.2 := by
    rw [← List.pairwise_map (f := Prod.snd), List.zipIdx_map_snd]
    exact List.pairwise_lt_range'
  cases direction : mode.isReversed with
  | false => simpa [placed, RunMode.inWalkOrder, RunMode.TakesLater, direction] using inOrder
  | true => simpa [placed, RunMode.inWalkOrder, RunMode.TakesLater, direction, List.pairwise_reverse] using inOrder

/-- An entry of the plan stands at its place. -/
theorem mem_placed : (entry, place) ∈ workflow.placed mode ↔ workflow.entries[place]? = some entry := by
  rw [placed, RunMode.mem_inWalkOrder, List.mk_mem_zipIdx_iff_getElem?]

/-- Where an entry stands, the entries before it are those that the walk comes to first. -/
theorem placed_split (split : workflow.placed mode = front ++ (entry, place) :: rest) :
    if mode.isReversed then front.map Prod.fst = (workflow.entries.drop (place + 1)).reverse
    else front.map Prod.fst = workflow.entries.take place := by
  rw [placed, RunMode.inWalkOrder] at split
  cases direction : mode.isReversed with
  | false =>
    rw [direction, if_neg Bool.false_ne_true] at split
    rw [if_neg Bool.false_ne_true]
    exact (zipIdx_split split).1
  | true =>
    rw [direction, if_pos rfl, List.reverse_eq_iff, List.reverse_append, List.reverse_cons, List.append_assoc,
      List.singleton_append] at split
    rw [if_pos rfl, ← (zipIdx_split split).2, List.map_reverse, List.reverse_reverse]

/-- An entry that the walk comes to later stands behind. -/
theorem mem_behind (split : workflow.placed mode = front ++ (entry, place) :: rest) {other : Entry (Generator σ)}
    {later : Nat} (isOther : workflow.entries[later]? = some other) (isLater : mode.TakesLater place later) :
    (other, later) ∈ rest := by
  have inOrder := workflow.pairwise_placed mode
  have isThere : (other, later) ∈ workflow.placed mode := mem_placed.mpr isOther
  rw [split] at inOrder isThere
  rcases List.mem_append.mp isThere with inFront | isHere
  · have isEarlier := (List.pairwise_append.mp inOrder).2.2 _ inFront _ List.mem_cons_self
    exact absurd isEarlier isLater.asymm
  · rcases List.mem_cons.mp isHere with same | isBehind
    · obtain ⟨-, rfl⟩ := Prod.mk.inj same
      exact absurd isLater isLater.asymm
    · exact isBehind

end Workflow

/-! ## Turns -/

/-- Whether the steps so far may stand together. Going forward, their tags are looked at as soon as they are made; going
backward, not before the end. -/
def Purpose.accept (purpose : Purpose) (name : String) (records : List Recorded) : Except WorkflowError Unit :=
  if purpose.mode.isReversed then .ok () else (Build.recordAll name records .empty).map fun _ => ()

/-- What an answer of a generator comes to: an error is wrapped, and a step is recorded behind those before it. -/
def Purpose.recordAnswer (purpose : Purpose) (workflow generator : String) (options : StepOptions)
    (past : List Recorded) : Except WorkflowError BuiltStep → Except WorkflowError (Uint256 × List Recorded)
  | .error e => .error (.stepFailed workflow generator e)
  | .ok step =>
    (purpose.accept workflow (past ++ [(step, options)])).map fun _ => (step.amountOut, past ++ [(step, options)])

/-- The turn of an entry, when `past` was recorded before: its generator is left out, or it is asked. The outcome are
the running amount and all records, in the order in which they were made. -/
def takeTurn (purpose : Purpose) (name : String) (entry : Entry (Generator σ)) (amount : Uint256)
    (past : List Recorded) (world : World σ) : Except WorkflowError (Uint256 × List Recorded) × World σ :=
  let context := purpose.contextAfter name past
  if entry.options.leavesOut amount context then (.ok (amount, past), world)
  else
    let ran := entry.generator.run purpose amount context world
    (purpose.recordAnswer name entry.generator.name entry.options past ran.1, ran.2)

/-- The turns of some entries, one after another. -/
def takeTurns (purpose : Purpose) (name : String) :
    List (Entry (Generator σ)) → Uint256 → (past : List Recorded) → World σ →
      Except WorkflowError (Uint256 × List Recorded) × World σ
  | [], amount, past, world => (.ok (amount, past), world)
  | entry :: rest, amount, past, world =>
    match takeTurn purpose name entry amount past world with
    | (.error e, after) => (.error e, after)
    | (.ok (running, records), after) => takeTurns purpose name rest running records after

section Turns

variable {purpose : Purpose} {name : String}

theorem takeTurn_of_leavesOut {entry : Entry (Generator σ)} {amount : Uint256} {past : List Recorded}
    (isOut : entry.options.leavesOut amount (purpose.contextAfter name past) = true) (world : World σ) :
    takeTurn purpose name entry amount past world = (.ok (amount, past), world) := by
  rw [takeTurn, if_pos isOut]

theorem takeTurn_of_run {entry : Entry (Generator σ)} {amount : Uint256} {past : List Recorded}
    {world after : World σ} {answer : Except WorkflowError BuiltStep}
    (isIn : entry.options.leavesOut amount (purpose.contextAfter name past) = false)
    (ran : entry.generator.run purpose amount (purpose.contextAfter name past) world = (answer, after)) :
    takeTurn purpose name entry amount past world =
      (purpose.recordAnswer name entry.generator.name entry.options past answer, after) := by
  rw [takeTurn, if_neg (by simp [isIn]), ran]

/-- The turns of some entries go on with those of others. -/
theorem takeTurns_append (front rest : List (Entry (Generator σ))) (amount : Uint256) (past : List Recorded)
    (world : World σ) :
    takeTurns purpose name (front ++ rest) amount past world =
      match takeTurns purpose name front amount past world with
      | (.error e, after) => (.error e, after)
      | (.ok (running, records), after) => takeTurns purpose name rest running records after := by
  induction front generalizing amount past world with
  | nil => rfl
  | cons first front ih =>
    simp only [List.cons_append, takeTurns]
    split
    · rfl
    · exact ih _ _ _

theorem error_of_map_error {ε α β : Type} {outcome : Except ε α} {result : α → β} {e : ε}
    (failed : outcome.map result = .error e) : outcome = .error e := by
  cases outcome with
  | error cause => exact congrArg Except.error (Except.error.inj failed)
  | ok value => cases failed

/-- Steps that cannot be recorded have a tag twice. -/
theorem exists_tag_of_recordAll_error {records : List Recorded} {e : WorkflowError}
    (refused : Build.recordAll name records .empty = .error e) : ∃ tag, e = .duplicateTag name tag := by
  obtain ⟨_, _, _, _, tag, -, -, -, -, rfl⟩ := Build.Holds.empty.recordAll_error refused
  exact ⟨tag, rfl⟩

theorem Purpose.accept_error {records : List Recorded} {e : WorkflowError}
    (refused : purpose.accept name records = .error e) : ∃ tag, e = .duplicateTag name tag := by
  rw [accept] at refused
  split at refused
  · cases refused
  · exact exists_tag_of_recordAll_error (error_of_map_error refused)

/-- A turn that fails is that of a generator that fails, or of a tag that is there already. -/
theorem takeTurn_error {entry : Entry (Generator σ)} {amount : Uint256} {past : List Recorded}
    {world after : World σ} {e : WorkflowError}
    (stopped : takeTurn purpose name entry amount past world = (.error e, after)) :
    entry.options.leavesOut amount (purpose.contextAfter name past) = false ∧
      ((∃ cause, e = .stepFailed name entry.generator.name cause ∧
          entry.generator.run purpose amount (purpose.contextAfter name past) world = (.error cause, after)) ∨
        ∃ tag, e = .duplicateTag name tag) := by
  cases isOut : entry.options.leavesOut amount (purpose.contextAfter name past) with
  | true =>
    rw [takeTurn_of_leavesOut isOut] at stopped
    cases stopped
  | false =>
    cases ran : entry.generator.run purpose amount (purpose.contextAfter name past) world with | mk answer last =>
    rw [takeTurn_of_run isOut ran] at stopped
    obtain ⟨refused, rfl⟩ := Prod.mk.inj stopped
    refine ⟨rfl, ?_⟩
    cases answer with
    | error cause => exact .inl ⟨cause, (Except.error.inj refused).symm, rfl⟩
    | ok step => exact .inr (Purpose.accept_error (error_of_map_error refused))

/-- Turns that fail stop at an entry. -/
theorem exists_of_takeTurns_error {entries : List (Entry (Generator σ) × Nat)} {amount : Uint256}
    {past : List Recorded} {world after : World σ} {e : WorkflowError}
    (stopped : takeTurns purpose name (entries.map Prod.fst) amount past world = (.error e, after)) :
    ∃ front entry place rest running records before, entries = front ++ (entry, place) :: rest ∧
      takeTurns purpose name (front.map Prod.fst) amount past world = (.ok (running, records), before) ∧
      takeTurn purpose name entry running records before = (.error e, after) := by
  induction entries generalizing amount past world with
  | nil => cases stopped
  | cons first rest ih =>
    obtain ⟨entry, place⟩ := first
    simp only [List.map_cons, takeTurns] at stopped
    split at stopped
    case h_1 cause failed taken =>
      obtain ⟨rfl, rfl⟩ : cause = e ∧ failed = after := by simpa using stopped
      exact ⟨[], entry, place, rest, amount, past, world, rfl, rfl, taken⟩
    case h_2 taken =>
      obtain ⟨front, stop, place', behind, running, records, before, rfl, inFront, stops⟩ := ih stopped
      refine ⟨(entry, place) :: front, stop, place', behind, running, records, before, rfl, ?_, stops⟩
      simp only [List.map_cons, takeTurns, taken, inFront]

/-- Recording one more step behind others. -/
theorem recordAll_append_singleton {records : List Recorded} {start build : Build}
    (recorded : Build.recordAll name records start = .ok build) (step : BuiltStep) (options : StepOptions) :
    Build.recordAll name (records ++ [(step, options)]) start = build.record name options step := by
  induction records generalizing start with
  | nil =>
    obtain rfl := Except.ok.inj recorded
    simp only [List.nil_append, Build.recordAll]
    split <;> simp [*]
  | cons first records ih =>
    obtain ⟨other, otherOptions⟩ := first
    simp only [List.cons_append, Build.recordAll] at recorded ⊢
    split at recorded
    · cases recorded
    · exact ih recorded

/-- A walk forward are these turns; what it builds are the records. -/
theorem walk_eq_takeTurns (forward : purpose.mode.isReversed = false) {past : List Recorded} {build : Build}
    (recorded : Build.recordAll name past .empty = .ok build) (entries : List (Entry (Generator σ))) (amount : Uint256)
    (world : World σ) :
    walk purpose name entries amount build world =
      match takeTurns purpose name entries amount past world with
      | (.error e, after) => (.error e, after)
      | (.ok walked, after) => (BackwardWalk.build name walked, after) := by
  induction entries generalizing amount past build world with
  | nil => simp only [walk, takeTurns, BackwardWalk.build, recorded, Except.map]
  | cons first rest ih =>
    obtain ⟨generator, options⟩ := first
    have holds : build.Holds past := Build.Holds.empty.recordAll recorded
    simp only [walk, takeTurns, holds.forwardContext forward]
    cases isOut : options.leavesOut amount (purpose.contextAfter name past) with
    | true =>
      rw [takeTurn_of_leavesOut isOut]
      exact ih recorded amount world
    | false =>
      cases ran : generator.run purpose amount (purpose.contextAfter name past) world with | mk answer after =>
      rw [takeTurn_of_run isOut ran]
      cases answer with
      | error e => rfl
      | ok step =>
        have accepted := recordAll_append_singleton recorded step options
        simp only [Purpose.recordAnswer, Purpose.accept, forward, accepted, Bool.false_eq_true, ↓reduceIte]
        cases once : build.record name options step with
        | error e => rfl
        | ok next =>
          rw [once] at accepted
          exact ih accepted _ _

/-- A walk backward are these turns, the last entry's first. -/
theorem walkBack_eq_takeTurns (backward : purpose.mode.isReversed = true) (entries : List (Entry (Generator σ)))
    (amount : Uint256) (world : World σ) :
    walkBack purpose name entries amount world =
      match takeTurns purpose name entries.reverse amount [] world with
      | (.error e, after) => (.error e, after)
      | (.ok (running, records), after) => (.ok (running, records.reverse), after) := by
  induction entries with
  | nil => rfl
  | cons first rest ih =>
    obtain ⟨generator, options⟩ := first
    rw [List.reverse_cons, takeTurns_append, walkBack, ih]
    cases takeTurns purpose name rest.reverse amount [] world with | mk outcome after =>
    cases outcome with
    | error e => rfl
    | ok walked =>
      obtain ⟨running, records⟩ := walked
      simp only [takeTurns, purpose.backwardContext_eq backward, List.reverse_reverse]
      cases isOut : options.leavesOut running (purpose.contextAfter name records) with
      | true =>
        rw [takeTurn_of_leavesOut isOut]
        rfl
      | false =>
        cases ran : generator.run purpose running (purpose.contextAfter name records) after with | mk answer last =>
        rw [takeTurn_of_run isOut ran]
        cases answer with
        | error e => rfl
        | ok step => simp [Purpose.recordAnswer, Purpose.accept, backward, Except.map]

/-- Going forward, what a turn recorded may stand together. -/
theorem recordAll_of_takeTurn (forward : purpose.mode.isReversed = false) {entry : Entry (Generator σ)}
    {amount out : Uint256} {past records : List Recorded} {world after : World σ} {build : Build}
    (recorded : Build.recordAll name past .empty = .ok build)
    (taken : takeTurn purpose name entry amount past world = (.ok (out, records), after)) :
    ∃ built, Build.recordAll name records .empty = .ok built := by
  cases isOut : entry.options.leavesOut amount (purpose.contextAfter name past) with
  | true =>
    rw [takeTurn_of_leavesOut isOut] at taken
    obtain ⟨⟨-, rfl⟩, -⟩ : (amount = out ∧ past = records) ∧ world = after := by simpa using taken
    exact ⟨build, recorded⟩
  | false =>
    cases ran : entry.generator.run purpose amount (purpose.contextAfter name past) world with | mk answer last =>
    rw [takeTurn_of_run isOut ran] at taken
    cases answer with
    | error e => cases taken
    | ok step =>
      simp only [Purpose.recordAnswer, Purpose.accept, forward, Bool.false_eq_true, ↓reduceIte] at taken
      cases once : Build.recordAll name (past ++ [(step, entry.options)]) .empty with
      | error e =>
        rw [once] at taken
        cases taken
      | ok next =>
        rw [once] at taken
        obtain ⟨⟨-, rfl⟩, -⟩ : (step.amountOut = out ∧ past ++ [(step, entry.options)] = records) ∧ last = after := by
          simpa [Except.map] using taken
        exact ⟨next, once⟩

/-- So may what many turns recorded. -/
theorem recordAll_of_takeTurns (forward : purpose.mode.isReversed = false) {entries : List (Entry (Generator σ))}
    {amount out : Uint256} {past records : List Recorded} {world after : World σ} {build : Build}
    (recorded : Build.recordAll name past .empty = .ok build)
    (taken : takeTurns purpose name entries amount past world = (.ok (out, records), after)) :
    ∃ built, Build.recordAll name records .empty = .ok built := by
  induction entries generalizing amount past build world with
  | nil =>
    obtain ⟨⟨rfl, rfl⟩, rfl⟩ : (amount = out ∧ past = records) ∧ world = after := by simpa [takeTurns] using taken
    exact ⟨build, recorded⟩
  | cons entry rest ih =>
    rw [takeTurns] at taken
    split at taken
    · cases taken
    case h_2 first =>
      obtain ⟨next, once⟩ := recordAll_of_takeTurn forward recorded first
      exact ih once taken

/-- What is recorded in the end holds the records. -/
theorem BackwardWalk.build_ok {walked : BackwardWalk} {build : Build}
    (built : BackwardWalk.build name walked = .ok build) : build.amountOut = walked.1 ∧ build.Holds walked.2 := by
  rw [BackwardWalk.build] at built
  cases recorded : Build.recordAll name walked.2 .empty with
  | error e =>
    rw [recorded] at built
    cases built
  | ok next =>
    rw [recorded] at built
    obtain rfl := Except.ok.inj built
    exact ⟨rfl, (Build.Holds.empty.recordAll recorded).withAmount walked.1⟩

end Turns

namespace Workflow

variable {workflow : Workflow σ} {purpose : Purpose} {amount : Uint256} {world : World σ}

/-- A build are the turns of its entries; then the steps are recorded in the order of the plan, and the build is
kept. -/
theorem buildFor_eq_takeTurns (workflow : Workflow σ) (purpose : Purpose) (amount : Uint256) (world : World σ) :
    workflow.buildFor purpose amount world =
      match takeTurns purpose workflow.name ((workflow.placed purpose.mode).map Prod.fst) amount []
          (world.clear workflow.cell) with
      | (.error e, after) => (.error e, after)
      | (.ok (out, records), after) =>
        match BackwardWalk.build workflow.name (out, purpose.mode.inWalkOrder records) with
        | .error e => (.error e, after)
        | .ok build => (.ok build, after.store workflow.cell build) := by
  rw [map_fst_placed, buildFor, buildInto]
  cases direction : purpose.mode.isReversed with
  | false =>
    simp only [RunMode.inWalkOrder, direction, Bool.false_eq_true, ↓reduceIte,
      walk_eq_takeTurns direction (show Build.recordAll workflow.name [] .empty = .ok .empty from rfl)]
    cases takeTurns purpose workflow.name workflow.entries amount [] (world.clear workflow.cell) with
      | mk outcome after =>
    cases outcome with
    | error e => rfl
    | ok walked =>
      simp only
      cases BackwardWalk.build workflow.name walked <;> rfl
  | true =>
    simp only [RunMode.inWalkOrder, direction, ↓reduceIte, walkBack_eq_takeTurns direction]
    cases takeTurns purpose workflow.name workflow.entries.reverse amount [] (world.clear workflow.cell) with
      | mk outcome after =>
    cases outcome with
    | error e => rfl
    | ok walked =>
      simp only
      cases BackwardWalk.build workflow.name (walked.1, walked.2.reverse) <;> rfl

/-- The turn of an entry comes when the turns before it succeed. -/
theorem turnComes_iff {front rest : List (Entry (Generator σ) × Nat)} {entry : Entry (Generator σ)} {place : Nat}
    (split : workflow.placed purpose.mode = front ++ (entry, place) :: rest) {running : Uint256} {context : RunContext}
    {before : World σ} :
    workflow.TurnComes purpose amount world place running context before ↔
      ∃ past, takeTurns purpose workflow.name (front.map Prod.fst) amount [] (world.clear workflow.cell) =
          (.ok (running, past), before) ∧
        context = purpose.contextAfter workflow.name past := by
  have inFront := placed_split split
  cases direction : purpose.mode.isReversed with
  | false =>
    have none : Build.recordAll workflow.name [] .empty = .ok .empty := rfl
    rw [if_neg (by simp [direction])] at inFront
    rw [inFront]
    have same := walk_eq_takeTurns direction none (workflow.entries.take place) amount (world.clear workflow.cell)
    constructor
    · rintro (⟨-, walked⟩ | ⟨backward, -⟩)
      case backward => simp [direction] at backward
      case forward build =>
        rw [walked] at same
        split at same
        · cases same
        case h_2 walked after taken =>
          obtain ⟨built, rfl⟩ := Prod.mk.inj same
          obtain ⟨isOut, holds⟩ := BackwardWalk.build_ok built.symm
          exact ⟨walked.2, by rw [taken, isOut], holds.forwardContext direction workflow.name⟩
    · rintro ⟨past, taken, rfl⟩
      obtain ⟨next, recorded⟩ := recordAll_of_takeTurns direction none taken
      rw [taken] at same
      simp only [BackwardWalk.build, recorded, Except.map] at same
      have holds : Build.Holds past { next with amountOut := running } :=
        (Build.Holds.empty.recordAll recorded).withAmount running
      rw [← holds.forwardContext direction]
      exact .forward direction same
  | true =>
    rw [if_pos direction] at inFront
    rw [inFront]
    have same : walkBack purpose workflow.name (workflow.entries.drop (place + 1)) amount
        (world.clear workflow.cell) = _ := walkBack_eq_takeTurns direction _ amount _
    constructor
    · rintro (⟨forward, -⟩ | ⟨-, walked⟩)
      case forward => simp [direction] at forward
      case backward later =>
        rw [walked] at same
        split at same
        · cases same
        case h_2 _ records _ taken =>
          obtain ⟨⟨rfl, rfl⟩, rfl⟩ : (running = _ ∧ later = records.reverse) ∧ before = _ := by simpa using same
          refine ⟨records, taken, ?_⟩
          rw [purpose.backwardContext_eq direction, List.reverse_reverse]
    · rintro ⟨past, taken, rfl⟩
      rw [taken] at same
      rw [← List.reverse_reverse past, ← purpose.backwardContext_eq direction]
      exact .backward direction same

section Stop

variable {front rest : List (Entry (Generator σ) × Nat)} {entry : Entry (Generator σ)} {place : Nat}
  {running : Uint256} {past : List Recorded} {before after : World σ} {e : WorkflowError}
  (split : workflow.placed purpose.mode = front ++ (entry, place) :: rest)
  (inFront : takeTurns purpose workflow.name (front.map Prod.fst) amount [] (world.clear workflow.cell) =
    (.ok (running, past), before))
  (stops : takeTurn purpose workflow.name entry running past before = (.error e, after))
include inFront stops

/-- A turn that fails stops the turns, whatever stands behind it. -/
theorem takeTurns_of_stop (behind : List (Entry (Generator σ))) :
    takeTurns purpose workflow.name (front.map Prod.fst ++ entry :: behind) amount [] (world.clear workflow.cell) =
      (.error e, after) := by
  rw [takeTurns_append, inFront]
  simp only [takeTurns, stops]

include split

/-- It makes the build fail. -/
theorem buildFor_of_stop : workflow.buildFor purpose amount world = (.error e, after) := by
  rw [buildFor_eq_takeTurns, split, List.map_append, List.map_cons, takeTurns_of_stop inFront stops]

/-- No turn comes behind it. -/
theorem not_turnComes_of_stop {other : Entry (Generator σ)} {later : Nat} (isBehind : (other, later) ∈ rest)
    {running' : Uint256} {context' : RunContext} {before' : World σ} :
    ¬ workflow.TurnComes purpose amount world later running' context' before' := by
  intro turn
  obtain ⟨between, behind, rfl⟩ := List.append_of_mem isBehind
  have further : workflow.placed purpose.mode = (front ++ (entry, place) :: between) ++ (other, later) :: behind := by
    rw [split, List.append_assoc, List.cons_append]
  obtain ⟨past', taken, -⟩ := (turnComes_iff further).mp turn
  rw [List.map_append, List.map_cons, takeTurns_of_stop inFront stops] at taken
  cases taken

end Stop

end Workflow

end CallWeave
