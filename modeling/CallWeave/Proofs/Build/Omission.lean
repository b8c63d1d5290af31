import CallWeave.Proofs.Sharing.History

/-!
# Entries that are left out

What a build leaves out might as well not be in the plan. When any of the entries that a build leaves out are
deleted, whatever it leaves them out for, the build of the rest has the same outcome and leaves the same world
(`Workflow.buildFor_keeping`), and what is finalized is the same. The generator of an entry that is left out
is not asked. That of every other entry is asked in both builds or in neither, with one amount, in one context
and in one world, though its place is another.

Both walks are followed entry by entry. Of an entry that is deleted only this matters: if its turn comes, it is
left out (`walk_keptFrom`, `walkBack_keptFrom`).
-/

namespace CallWeave

variable {σ : Type}

/-! ## Deleting entries -/

section Kept

variable {α : Type} (keep : Nat → Bool)

/-- The kept ones among some entries, the first of which stands at `start`. -/
def keptFrom (start : Nat) (entries : List α) : List α :=
  ((entries.zipIdx start).filter fun placed => keep placed.2).map Prod.fst

/-- How many of the places from `start` on are kept. -/
def keptCount (start places : Nat) : Nat := (List.range' start places).countP keep

variable {keep} {start : Nat}

@[simp] theorem keptFrom_nil : keptFrom keep start ([] : List α) = [] := rfl

theorem keptFrom_cons_of_kept (isKept : keep start = true) (first : α) (rest : List α) :
    keptFrom keep start (first :: rest) = first :: keptFrom keep (start + 1) rest := by
  simp [keptFrom, List.zipIdx_cons, isKept]

theorem keptFrom_cons_of_deleted (deleted : keep start = false) (first : α) (rest : List α) :
    keptFrom keep start (first :: rest) = keptFrom keep (start + 1) rest := by
  simp [keptFrom, List.zipIdx_cons, deleted]

theorem keptCount_succ_of_kept (isKept : keep start = true) (places : Nat) :
    keptCount keep start (places + 1) = keptCount keep (start + 1) places + 1 := by
  rw [keptCount, List.range'_succ, List.countP_cons_of_pos isKept, keptCount]

theorem keptCount_succ_of_deleted (deleted : keep start = false) (places : Nat) :
    keptCount keep start (places + 1) = keptCount keep (start + 1) places := by
  rw [keptCount, List.range'_succ, List.countP_cons_of_neg (by simp [deleted]), keptCount]

theorem keptCount_add_one {places : Nat} (isKept : keep (start + places) = true) :
    keptCount keep start (places + 1) = keptCount keep start places + 1 := by
  rw [keptCount, List.range'_1_concat, List.countP_append, List.countP_singleton, if_pos isKept, keptCount]

/-- What is kept was there. -/
theorem keptFrom_subset (entries : List α) : keptFrom keep start entries ⊆ entries := by
  intro entry isKept
  obtain ⟨⟨_, place⟩, isThere, rfl⟩ := List.mem_map.mp isKept
  exact List.fst_mem_of_mem_zipIdx (List.mem_of_mem_filter isThere)

/-- A kept entry stands behind as many others as were kept before it. -/
theorem getElem?_keptFrom (entries : List α) (place : Nat) (isKept : keep (start + place) = true) :
    (keptFrom keep start entries)[keptCount keep start place]? = entries[place]? := by
  induction entries generalizing start place with
  | nil => simp
  | cons first rest ih =>
    cases place with
    | zero =>
      have isKept : keep start = true := isKept
      rw [keptFrom_cons_of_kept isKept]
      rfl
    | succ place =>
      have ih := ih place (show keep (start + 1 + place) = true by rwa [Nat.add_assoc, Nat.add_comm 1])
      cases here : keep start with
      | true => rw [keptFrom_cons_of_kept here, keptCount_succ_of_kept here, List.getElem?_cons_succ, ih,
          List.getElem?_cons_succ]
      | false => rw [keptFrom_cons_of_deleted here, keptCount_succ_of_deleted here, ih, List.getElem?_cons_succ]

/-- In front of it stand the kept ones of those that stood in front of it. -/
theorem take_keptFrom (entries : List α) (place : Nat) :
    (keptFrom keep start entries).take (keptCount keep start place) = keptFrom keep start (entries.take place) := by
  induction entries generalizing start place with
  | nil => simp
  | cons first rest ih =>
    cases place with
    | zero => simp [keptCount]
    | succ place =>
      have ih : (keptFrom keep (start + 1) rest).take (keptCount keep (start + 1) place) =
          keptFrom keep (start + 1) (rest.take place) := ih place
      cases here : keep start with
      | true => rw [keptFrom_cons_of_kept here, keptCount_succ_of_kept here, List.take_succ_cons, ih,
          List.take_succ_cons, keptFrom_cons_of_kept here]
      | false => rw [keptFrom_cons_of_deleted here, keptCount_succ_of_deleted here, ih, List.take_succ_cons,
          keptFrom_cons_of_deleted here]

/-- Behind it stand the kept ones of those that stood behind it. -/
theorem drop_keptFrom (entries : List α) (places : Nat) :
    (keptFrom keep start entries).drop (keptCount keep start places) =
      keptFrom keep (start + places) (entries.drop places) := by
  induction entries generalizing start places with
  | nil => simp
  | cons first rest ih =>
    cases places with
    | zero => simp [keptCount]
    | succ places =>
      have ih : (keptFrom keep (start + 1) rest).drop (keptCount keep (start + 1) places) =
          keptFrom keep (start + 1 + places) (rest.drop places) := ih places
      rw [Nat.add_assoc, Nat.add_comm 1] at ih
      cases here : keep start with
      | true => rw [keptFrom_cons_of_kept here, keptCount_succ_of_kept here, List.drop_succ_cons, ih,
          List.drop_succ_cons]
      | false => rw [keptFrom_cons_of_deleted here, keptCount_succ_of_deleted here, ih, List.drop_succ_cons]

/-- Whatever stands among the kept entries was kept. -/
theorem exists_of_getElem?_keptFrom {entries : List α} {place : Nat} {entry : α}
    (isThere : (keptFrom keep start entries)[place]? = some entry) :
    ∃ before, keep (start + before) = true ∧ keptCount keep start before = place := by
  induction entries generalizing start place with
  | nil => simp at isThere
  | cons first rest ih =>
    have behind {place : Nat} (isThere : (keptFrom keep (start + 1) rest)[place]? = some entry) :
        ∃ before, keep (start + (before + 1)) = true ∧ keptCount keep (start + 1) before = place := by
      obtain ⟨before, isKept, count⟩ := ih isThere
      exact ⟨before, by rwa [Nat.add_comm before, ← Nat.add_assoc], count⟩
    cases here : keep start with
    | false =>
      rw [keptFrom_cons_of_deleted here] at isThere
      obtain ⟨before, isKept, count⟩ := behind isThere
      exact ⟨before + 1, isKept, by rw [keptCount_succ_of_deleted here, count]⟩
    | true =>
      cases place with
      | zero => exact ⟨0, here, rfl⟩
      | succ place =>
        rw [keptFrom_cons_of_kept here, List.getElem?_cons_succ] at isThere
        obtain ⟨before, isKept, count⟩ := behind isThere
        exact ⟨before + 1, isKept, by rw [keptCount_succ_of_kept here, count]⟩

end Kept

/-! ## Walks -/

section Walks

variable {keep : Nat → Bool} {purpose : Purpose} {name : String} {start : Nat} {amount : Uint256} {world : World σ}
  {entries : List (Entry (Generator σ))}

/-- A walk forward is the same without the entries that are left out when their turn comes. -/
theorem walk_keptFrom {build : Build}
    (leftOut : ∀ (place : Nat) (entry : Entry (Generator σ)), entries[place]? = some entry →
      keep (start + place) = false → ∀ built after,
      walk purpose name (entries.take place) amount build world = (.ok built, after) →
      entry.options.leavesOut built.amountOut (purpose.forwardContext name built) = true) :
    walk purpose name (keptFrom keep start entries) amount build world =
      walk purpose name entries amount build world := by
  induction entries generalizing start amount build world with
  | nil => rfl
  | cons first rest ih =>
    obtain ⟨generator, options⟩ := first
    -- what stands behind the first entry is left out behind whatever the entry leaves
    have behind (place : Nat) (entry : Entry (Generator σ)) (isThere : rest[place]? = some entry)
        (deleted : keep (start + 1 + place) = false) :=
      leftOut (place + 1) entry isThere (by rwa [Nat.add_comm place, ← Nat.add_assoc])
    simp only [List.take_succ_cons, walk] at behind
    cases here : keep start with
    | false =>
      have isOut : options.leavesOut amount (purpose.forwardContext name build) = true :=
        leftOut 0 ⟨generator, options⟩ rfl here { build with amountOut := amount } world (by rw [List.take_zero, walk])
      simp only [isOut, ↓reduceIte] at behind
      rw [keptFrom_cons_of_deleted here, ih behind, walk]
      simp only [isOut, ↓reduceIte]
    | true =>
      rw [keptFrom_cons_of_kept here, walk, walk]
      split
      case isTrue isOut =>
        simp only [isOut, ↓reduceIte] at behind
        exact ih behind
      case isFalse isIn =>
        simp only [isIn, Bool.false_eq_true, ↓reduceIte] at behind
        split
        case h_1 => rfl
        case h_2 step after ran =>
          split
          case h_1 => rfl
          case h_2 longer recorded =>
            simp only [ran, recorded] at behind
            exact ih behind

/-- A walk backward is the same without the entries that are left out when their turn comes. -/
theorem walkBack_keptFrom
    (leftOut : ∀ (place : Nat) (entry : Entry (Generator σ)), entries[place]? = some entry →
      keep (start + place) = false → ∀ running later after,
      walkBack purpose name (entries.drop (place + 1)) amount world = (.ok (running, later), after) →
      entry.options.leavesOut running (purpose.backwardContext name later) = true) :
    walkBack purpose name (keptFrom keep start entries) amount world = walkBack purpose name entries amount world := by
  induction entries generalizing start with
  | nil => rfl
  | cons first rest ih =>
    obtain ⟨generator, options⟩ := first
    have behind : walkBack purpose name (keptFrom keep (start + 1) rest) amount world =
        walkBack purpose name rest amount world := ih fun place entry isThere deleted =>
      leftOut (place + 1) entry isThere (by rwa [Nat.add_comm place, ← Nat.add_assoc])
    have isOut (deleted : keep start = false) := leftOut 0 ⟨generator, options⟩ rfl deleted
    cases here : keep start with
    | false =>
      rw [keptFrom_cons_of_deleted here, behind, walkBack]
      split
      case h_1 failed => exact failed
      case h_2 running later after walked =>
        rw [walked, if_pos (isOut here running later after walked)]
    | true => rw [keptFrom_cons_of_kept here, walkBack, walkBack, behind]

end Walks

/-! ## Builds -/

namespace Workflow

/-- In a build, the turn of the entry at a place comes: the walk along the entries whose turn is before, those in
front or, going backward, those behind, succeeds. It leaves the running amount, the context and the world of
the turn. -/
inductive TurnComes (workflow : Workflow σ) (purpose : Purpose) (amount : Uint256) (world : World σ) (place : Nat) :
    Uint256 → RunContext → World σ → Prop
  | forward {build : Build} {before : World σ} (direction : purpose.mode.isReversed = false)
      (walked : walk purpose workflow.name (workflow.entries.take place) amount .empty (world.clear workflow.cell) =
        (.ok build, before)) :
      TurnComes workflow purpose amount world place build.amountOut (purpose.forwardContext workflow.name build) before
  | backward {running : Uint256} {later : List Recorded} {before : World σ} (direction : purpose.mode.isReversed = true)
      (walked : walkBack purpose workflow.name (workflow.entries.drop (place + 1)) amount
        (world.clear workflow.cell) = (.ok (running, later), before)) :
      TurnComes workflow purpose amount world place running (purpose.backwardContext workflow.name later) before

/-- A build leaves out the entry at a place. -/
inductive LeavesOut (workflow : Workflow σ) (purpose : Purpose) (amount : Uint256) (world : World σ) (place : Nat) :
    Prop
  | always {entry : Entry (Generator σ)} (isEntry : workflow.entries[place]? = some entry)
      (skips : entry.options.skip = .always) : LeavesOut workflow purpose amount world place
  /-- The mode is none of those for which the entry is meant. -/
  | onlyExecute {entry : Entry (Generator σ)} (isEntry : workflow.entries[place]? = some entry)
      (only : entry.options.onlyExecute = true) (mode : purpose.mode.isStatic = false) :
      LeavesOut workflow purpose amount world place
  /-- A condition holds when the turn comes. -/
  | predicate {entry : Entry (Generator σ)} {holds : Uint256 → RunContext → Bool} {running : Uint256}
      {context : RunContext} {before : World σ} (isEntry : workflow.entries[place]? = some entry)
      (skips : entry.options.skip = .when holds)
      (turn : workflow.TurnComes purpose amount world place running context before)
      (isTrue : holds running context = true) : LeavesOut workflow purpose amount world place

/-- In a build, the generator of the entry at a place is asked. -/
structure Asks (workflow : Workflow σ) (purpose : Purpose) (amount : Uint256) (world : World σ) (place : Nat)
    (generator : Generator σ) (running : Uint256) (context : RunContext) (before : World σ) : Prop where
  turn : workflow.TurnComes purpose amount world place running context before
  isIn : ∃ options, workflow.entries[place]? = some ⟨generator, options⟩ ∧ options.leavesOut running context = false

/-- The workflow without the entries that are not kept. -/
def keeping (workflow : Workflow σ) (keep : Nat → Bool) : Workflow σ :=
  { workflow with entries := keptFrom keep 0 workflow.entries }

variable {workflow : Workflow σ} {purpose : Purpose} {amount : Uint256} {world : World σ} {place : Nat}

/-- A turn is taken in the mode of the build. -/
theorem TurnComes.context_mode {running : Uint256} {context : RunContext} {before : World σ}
    (turn : workflow.TurnComes purpose amount world place running context before) : context.mode = purpose.mode := by
  cases turn <;> rfl

/-- A turn comes once. -/
theorem TurnComes.unique {running running' : Uint256} {context context' : RunContext} {before before' : World σ}
    (turn : workflow.TurnComes purpose amount world place running context before)
    (turn' : workflow.TurnComes purpose amount world place running' context' before') :
    running = running' ∧ context = context' ∧ before = before' := by
  cases turn with
  | forward direction walked =>
    cases turn' with
    | forward _ walked' =>
      obtain ⟨rfl, rfl⟩ : _ = _ ∧ before = before' := by simpa using walked.symm.trans walked'
      exact ⟨rfl, rfl, rfl⟩
    | backward direction' => simp [direction] at direction'
  | backward direction walked =>
    cases turn' with
    | forward direction' => simp [direction] at direction'
    | backward _ walked' =>
      obtain ⟨⟨rfl, rfl⟩, rfl⟩ : (running = running' ∧ _ = _) ∧ before = before' := by
        simpa using walked.symm.trans walked'
      exact ⟨rfl, rfl, rfl⟩

/-- An entry that a build leaves out takes no part when its turn comes. -/
theorem LeavesOut.leavesOut (leftOut : workflow.LeavesOut purpose amount world place) {entry : Entry (Generator σ)}
    (isEntry : workflow.entries[place]? = some entry) {running : Uint256} {context : RunContext} {before : World σ}
    (turn : workflow.TurnComes purpose amount world place running context before) :
    entry.options.leavesOut running context = true := by
  cases leftOut with
  | always isEntry' skips =>
    obtain rfl := Option.some.inj (isEntry.symm.trans isEntry')
    simp [StepOptions.leavesOut, skips, SkipRule.applies]
  | onlyExecute isEntry' only mode =>
    obtain rfl := Option.some.inj (isEntry.symm.trans isEntry')
    simp [StepOptions.leavesOut, StepOptions.isDropped, only, turn.context_mode, mode]
  | predicate isEntry' skips turn' isTrue =>
    obtain rfl := Option.some.inj (isEntry.symm.trans isEntry')
    obtain ⟨rfl, rfl, rfl⟩ := turn.unique turn'
    simp [StepOptions.leavesOut, skips, SkipRule.applies, isTrue]

/-- The generator of an entry that a build leaves out is not asked. -/
theorem LeavesOut.not_asks (leftOut : workflow.LeavesOut purpose amount world place) (generator : Generator σ)
    (running : Uint256) (context : RunContext) (before : World σ) :
    ¬ workflow.Asks purpose amount world place generator running context before := by
  rintro ⟨turn, options, isEntry, isIn⟩
  have isOut := leftOut.leavesOut isEntry turn
  simp [isIn] at isOut

section Keeping

variable {keep : Nat → Bool}
  (leftOut : ∀ place < workflow.entries.length, keep place = false → workflow.LeavesOut purpose amount world place)
include leftOut

/-- A walk forward along the entries in front does not need those that are left out. -/
theorem walk_take_keptFrom (direction : purpose.mode.isReversed = false) (places : Nat) :
    walk purpose workflow.name (keptFrom keep 0 (workflow.entries.take places)) amount .empty
        (world.clear workflow.cell) =
      walk purpose workflow.name (workflow.entries.take places) amount .empty (world.clear workflow.cell) := by
  refine walk_keptFrom fun place entry isThere deleted build before walked => ?_
  rw [List.getElem?_take] at isThere
  split at isThere
  case isFalse => cases isThere
  case isTrue isLess =>
    rw [Nat.zero_add] at deleted
    rw [List.take_take, Nat.min_eq_left (Nat.le_of_lt isLess)] at walked
    have inside := (List.getElem?_eq_some_iff.mp isThere).1
    exact (leftOut place inside deleted).leavesOut isThere (.forward direction walked)

/-- A walk backward along the entries behind does not need those that are left out. -/
theorem walkBack_drop_keptFrom (direction : purpose.mode.isReversed = true) (places : Nat) :
    walkBack purpose workflow.name (keptFrom keep places (workflow.entries.drop places)) amount
        (world.clear workflow.cell) =
      walkBack purpose workflow.name (workflow.entries.drop places) amount (world.clear workflow.cell) := by
  refine walkBack_keptFrom fun place entry isThere deleted running later before walked => ?_
  rw [List.getElem?_drop] at isThere
  rw [List.drop_drop, ← Nat.add_assoc] at walked
  have inside := (List.getElem?_eq_some_iff.mp isThere).1
  exact (leftOut (places + place) inside deleted).leavesOut isThere (.backward direction walked)

/-- A build is the same without the entries that it leaves out. -/
theorem buildFor_keeping :
    (workflow.keeping keep).buildFor purpose amount world = workflow.buildFor purpose amount world := by
  rw [buildFor, buildFor, buildInto, buildInto]
  cases direction : purpose.mode.isReversed with
  | false =>
    have walked := walk_take_keptFrom leftOut direction workflow.entries.length
    rw [List.take_length] at walked
    simp only [keeping, Bool.false_eq_true, ↓reduceIte, walked]
  | true =>
    have walked := walkBack_drop_keptFrom leftOut direction 0
    rw [List.drop_zero] at walked
    simp only [keeping, ↓reduceIte, walked]

/-- The turn of an entry that is kept comes in both builds or in neither. -/
theorem turnComes_keeping (isKept : keep place = true) {running : Uint256} {context : RunContext} {before : World σ} :
    (workflow.keeping keep).TurnComes purpose amount world (keptCount keep 0 place) running context before ↔
      workflow.TurnComes purpose amount world place running context before := by
  have front : (workflow.keeping keep).entries.take (keptCount keep 0 place) =
      keptFrom keep 0 (workflow.entries.take place) := take_keptFrom workflow.entries place
  have behind : (workflow.keeping keep).entries.drop (keptCount keep 0 place + 1) =
      keptFrom keep (place + 1) (workflow.entries.drop (place + 1)) := by
    rw [← keptCount_add_one (show keep (0 + place) = true by rwa [Nat.zero_add]), keeping, drop_keptFrom, Nat.zero_add]
  constructor
  · rintro (⟨direction, walked⟩ | ⟨direction, walked⟩)
    · rw [front] at walked
      exact .forward direction ((walk_take_keptFrom leftOut direction place).symm.trans walked)
    · rw [behind] at walked
      exact .backward direction ((walkBack_drop_keptFrom leftOut direction (place + 1)).symm.trans walked)
  · rintro (⟨direction, walked⟩ | ⟨direction, walked⟩)
    · refine .forward direction ?_
      rw [front]
      exact (walk_take_keptFrom leftOut direction place).trans walked
    · refine .backward direction ?_
      rw [behind]
      exact (walkBack_drop_keptFrom leftOut direction (place + 1)).trans walked

/-- The generator of an entry that is kept is asked in both builds or in neither. -/
theorem asks_keeping (isKept : keep place = true) {generator : Generator σ} {running : Uint256} {context : RunContext}
    {before : World σ} :
    (workflow.keeping keep).Asks purpose amount world (keptCount keep 0 place) generator running context before ↔
      workflow.Asks purpose amount world place generator running context before := by
  have entry : (workflow.keeping keep).entries[keptCount keep 0 place]? = workflow.entries[place]? :=
    getElem?_keptFrom workflow.entries place (by rwa [Nat.zero_add])
  constructor
  · rintro ⟨turn, options, isEntry, isIn⟩
    exact ⟨(turnComes_keeping leftOut isKept).mp turn, options, entry ▸ isEntry, isIn⟩
  · rintro ⟨turn, options, isEntry, isIn⟩
    exact ⟨(turnComes_keeping leftOut isKept).mpr turn, options, entry ▸ isEntry, isIn⟩

end Keeping

/-! ## What is seen of the builds -/

/-- Two workflows are seen to be built alike, or not to be built: the steps, the emitted ones, the tags, the value
and the amount of the build, the calls and the outbound call. -/
structure SeenLike (one other : Workflow σ) (cells : Cells) : Prop where
  current : one.current cells = other.current cells
  preparedCalls : one.preparedCalls cells = other.preparedCalls cells
  finalize : one.finalize cells = other.finalize cells

/-- A step that names a cell was made by the workflow in the cell. -/
theorem exists_inner_of_run {generator : Generator σ} {running : Uint256} {context : RunContext}
    {before after : World σ} {step : BuiltStep} (ran : generator.run purpose running context before = (.ok step, after))
    {cell : CellId} (names : step.cell? = some cell) :
    ∃ inner : Workflow σ, generator = inner.asGenerator ∧ inner.cell = cell := by
  cases generator with
  | leaf name run => simp [(Generator.run_leaf ran).2] at names
  | nested own name encoder entries =>
    let inner : Workflow σ := ⟨own, name, encoder, entries⟩
    have made := inner.run_asGenerator purpose running before context
    rw [asGenerator, ran] at made
    split at made
    · cases made
    · obtain ⟨rfl, -⟩ : step = .nested own name _ _ ∧ _ := by simpa using made
      exact ⟨inner, rfl, Option.some.inj names⟩

/-- What a build names is the workflow of an entry. -/
theorem Ran.exists_entry_of_named {turns : List (Turn σ)} {build : Build} {after : World σ}
    (ran : workflow.Ran purpose amount world turns build after) {cell : CellId} (isNamed : cell ∈ build.cells) :
    ∃ entry ∈ workflow.entries, ∃ inner : Workflow σ, entry.generator = inner.asGenerator ∧ inner.cell = cell := by
  obtain ⟨step, isStep, names⟩ := List.mem_filterMap.mp isNamed
  rw [ran.holds.steps] at isStep
  obtain ⟨record, isRecord, rfl⟩ := List.mem_map.mp isStep
  obtain ⟨turn, isTurn, recorded⟩ := List.mem_filterMap.mp isRecord
  obtain ⟨step, made, rfl⟩ := Option.map_eq_some_iff.mp recorded
  refine ⟨turn.entry, ran.entries ▸ List.mem_map_of_mem isTurn, ?_⟩
  cases ran.taken turn isTurn with
  | leftOut => cases made
  | made _ answered =>
    obtain rfl := Option.some.inj made
    exact exists_inner_of_run answered names

/-- A coherent plan stays so when entries are deleted. -/
theorem Coherent.keeping (coherent : workflow.Coherent) (keep : Nat → Bool) : (workflow.keeping keep).Coherent := by
  have nested {member : Workflow σ} (isIn : member ∈ (workflow.keeping keep).nested) : member ∈ workflow.nested := by
    obtain ⟨entry, isEntry, inside⟩ := mem_workflowsIn.mp isIn
    exact mem_nested_of_mem_entries (keptFrom_subset workflow.entries isEntry) inside
  have apart {member : Workflow σ} (isIn : member ∈ (workflow.keeping keep).nested) : member.cell ≠ workflow.cell :=
    coherent.cell_ne_of_mem_nested (nested isIn)
  intro one isOne other isOther same
  rcases List.mem_cons.mp isOne with rfl | oneNested <;> rcases List.mem_cons.mp isOther with rfl | otherNested
  · rfl
  · exact absurd same.symm (apart otherNested)
  · exact absurd same (apart oneNested)
  · exact coherent one (List.mem_cons_of_mem _ (nested oneNested)) other
      (List.mem_cons_of_mem _ (nested otherNested)) same

section Keeping

variable {keep : Nat → Bool} (coherent : workflow.Coherent)
  (leftOut : ∀ place < workflow.entries.length, keep place = false → workflow.LeavesOut purpose amount world place)
include coherent leftOut

/-- The build that is kept names only workflows that are in both plans, and these have the same calls. -/
theorem nestedCalls_keeping (build : Build)
    (held : (workflow.buildFor purpose amount world).2.cells workflow.cell = some build) {cell : CellId}
    (isNamed : cell ∈ build.cells) :
    (workflow.keeping keep).nestedCalls (workflow.buildFor purpose amount world).2.cells cell =
      workflow.nestedCalls (workflow.buildFor purpose amount world).2.cells cell := by
  have built := buildFor_keeping leftOut
  have kept := cell_buildFor coherent purpose amount world
  rw [held] at kept
  cases outcome : workflow.buildFor purpose amount world with | mk answer after =>
  rw [outcome] at kept built
  obtain rfl : answer = .ok build := by
    cases answer with
    | error e => cases kept
    | ok other => exact congrArg Except.ok (Option.some.inj kept).symm
  obtain ⟨turns, ran⟩ := buildFor_ok built
  obtain ⟨entry, isEntry, inner, isInner, rfl⟩ := ran.exists_entry_of_named isNamed
  rw [nestedCalls_eq_prepare (coherent.keeping keep) isEntry isInner,
    nestedCalls_eq_prepare coherent (keptFrom_subset workflow.entries isEntry) isInner]

/-- Without the entries that a build leaves out, the workflow is seen to be built alike. -/
theorem seenLike_keeping :
    (workflow.keeping keep).SeenLike workflow (workflow.buildFor purpose amount world).2.cells := by
  have nested := nestedCalls_keeping coherent leftOut
  generalize (workflow.buildFor purpose amount world).2.cells = cells at nested ⊢
  have cell : (workflow.keeping keep).cell = workflow.cell := rfl
  cases held : cells workflow.cell with
  | none =>
    constructor <;>
      simp only [Workflow.current, Workflow.preparedCalls, Workflow.finalize, outboundOf, cell, held,
        requireBuild] <;> rfl
  | some build =>
    have calls := build.calls_congr (fun named isNamed => nested build held isNamed) workflow.name
    constructor
    case current => rfl
    case preparedCalls =>
      simp only [Workflow.preparedCalls, Workflow.current, cell, held, requireBuild]
      exact calls
    case finalize =>
      simp only [Workflow.finalize, outboundOf, cell, held, requireBuild, Build.outbound]
      rw [show (workflow.keeping keep).name = workflow.name from rfl, calls]
      rfl

end Keeping

/-- Entries that a build leaves out, any number of them and whatever for, can be deleted: the rest is built in the
same way, to one amount or with one error, into one world, and is seen to be built alike. An entry that is left
out is not asked, and of the others each is asked with the same, at the place that it has now. -/
theorem build_keeping (coherent : workflow.Coherent) {mode : RunMode} {data : RunData} {keep : Nat → Bool}
    (leftOut : ∀ place < workflow.entries.length, keep place = false →
      workflow.LeavesOut ⟨mode, data⟩ amount world place) :
    (workflow.keeping keep).build amount mode data world = workflow.build amount mode data world ∧
      (workflow.keeping keep).SeenLike workflow (workflow.build amount mode data world).2.cells ∧
      (∀ place, workflow.LeavesOut ⟨mode, data⟩ amount world place → ∀ generator running context before,
        ¬ workflow.Asks ⟨mode, data⟩ amount world place generator running context before) ∧
      (∀ place, keep place = true → ∀ generator running context before,
        (workflow.keeping keep).Asks ⟨mode, data⟩ amount world (keptCount keep 0 place) generator running context
            before ↔
          workflow.Asks ⟨mode, data⟩ amount world place generator running context before) ∧
      ∀ place generator running context before,
        (workflow.keeping keep).Asks ⟨mode, data⟩ amount world place generator running context before →
        ∃ kept, keep kept = true ∧ keptCount keep 0 kept = place := by
  refine ⟨?_, ?_, fun place isOut => isOut.not_asks, fun place isKept _ _ _ _ => asks_keeping leftOut isKept, ?_⟩
  · rw [build, build, buildFor_keeping leftOut]
  · rw [workflow.build_snd]
    exact seenLike_keeping coherent leftOut
  · rintro place generator running context before ⟨-, options, isEntry, -⟩
    obtain ⟨kept, isKept, count⟩ := exists_of_getElem?_keptFrom isEntry
    exact ⟨kept, by rwa [Nat.zero_add] at isKept, count⟩

/-- A plan that leaves out an entry for the amount it comes to, one that is meant for other modes, and a nested
workflow that it takes at another place. -/
def trimmedPlan : Workflow Unit :=
  let inner : Workflow Unit := ⟨[1], "inner", ⟨.farm, default⟩, [⟨(RawCall.plain "swap" [1]).generator, .plain⟩]⟩
  let deposit : RawCall := ⟨"deposit", none, [4], .fromTag "swap" (some 0) 0, none, none⟩
  ⟨[0], "trimmed", ⟨.advancedFarm, default⟩,
    [⟨(Adjustment.add "claim" 5).generator, ⟨none, .never, true, false⟩⟩,
      ⟨(RawCall.plain "approve" [2]).generator, ⟨some "swap", .when fun amount _ => amount == 12, false, false⟩⟩,
      ⟨(RawCall.plain "permit" [3]).generator, ⟨none, .never, false, true⟩⟩,
      ⟨inner.asGenerator, ⟨some "swap", .never, false, false⟩⟩,
      ⟨inner.asGenerator, ⟨some "swap", .always, false, false⟩⟩,
      ⟨deposit.generator, ⟨some "deposit", .never, false, false⟩⟩]⟩

theorem trimmedPlan_kept :
    ∃ (keep : Nat → Bool) (after : World Unit) (call : OutboundCall),
      trimmedPlan.Coherent ∧ (trimmedPlan.keeping keep).generatorNames = ["claim", "inner", "deposit"] ∧
      (∀ place < trimmedPlan.entries.length, keep place = false →
        trimmedPlan.LeavesOut ⟨.forward, .empty⟩ 7 (.start ()) place) ∧
      (trimmedPlan.keeping keep).build 7 .forward .empty (.start ()) = (.ok 12, after) ∧
      (trimmedPlan.keeping keep).tags after.cells = [("swap", 0), ("deposit", 1)] ∧
      (trimmedPlan.keeping keep).finalize after.cells = .ok call ∧ trimmedPlan.finalize after.cells = .ok call ∧
      (∀ generator running context before,
        ¬ trimmedPlan.Asks ⟨.forward, .empty⟩ 7 (.start ()) 1 generator running context before) ∧
      ∃ generator running context before,
        (trimmedPlan.keeping keep).Asks ⟨.forward, .empty⟩ 7 (.start ()) 2 generator running context before ∧
        trimmedPlan.Asks ⟨.forward, .empty⟩ 7 (.start ()) 5 generator running context before := by
  let keep (place : Nat) : Bool := place == 0 || place == 3 || place == 5
  have coherent : trimmedPlan.Coherent := by
    simp [Coherent, trimmedPlan, family, nested, workflowsIn, asGenerator, Generator.workflows, Adjustment.generator,
      RawCall.generator, Generator.pure]
  have leftOut : ∀ place < trimmedPlan.entries.length, keep place = false →
      trimmedPlan.LeavesOut ⟨.forward, .empty⟩ 7 (.start ()) place := by
    rintro (_ | _ | _ | _ | _ | _ | place) isLess deleted
    case succ.zero => exact .predicate rfl rfl (.forward rfl rfl) rfl
    case succ.succ.zero => exact .onlyExecute rfl rfl rfl
    case succ.succ.succ.succ.zero => exact .always rfl rfl
    case succ.succ.succ.succ.succ.succ => exact absurd isLess (Nat.not_lt.mpr (Nat.le_add_left 6 place))
    -- the entries at the other places are kept
    all_goals cases deleted
  obtain ⟨built, seen, notAsked, asked, -⟩ := build_keeping coherent leftOut
  have asks : ∃ generator running context before,
      trimmedPlan.Asks ⟨.forward, .empty⟩ 7 (.start ()) 5 generator running context before :=
    ⟨_, _, _, _, .forward rfl rfl, _, rfl, rfl⟩
  obtain ⟨generator, running, context, before, asks⟩ := asks
  refine ⟨keep, _, _, coherent, rfl, leftOut, built.trans rfl, rfl, seen.finalize.trans rfl, rfl,
    notAsked 1 (leftOut 1 (by decide) rfl), generator, running, context, before, ?_, asks⟩
  exact (asked 5 rfl generator running context before).mpr asks

end Workflow

end CallWeave
