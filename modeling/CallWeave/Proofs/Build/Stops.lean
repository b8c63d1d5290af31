import CallWeave.Proofs.Build.Turns

/-!
# Builds that fail

A build that fails stops in one of two ways. A generator fails when its turn comes, and its error is wrapped
once; or a step that emits a call was given a tag that an earlier one has. `Workflow.buildFor_error` reads
this off every build that fails, in whatever direction it walks: forward, a tag is refused in the turn of its
step, and backward when all turns are over.
-/

namespace CallWeave

variable {σ : Type}

/-- A generator whose turn has come stops the build, with an error: it fails, or its step has a tag that was
recorded in the past. -/
inductive StopsAt (purpose : Purpose) (name : String) (past : List Recorded) (amount : Uint256) (world : World σ)
    (entry : Entry (Generator σ)) : WorkflowError → Prop
  | run {cause : WorkflowError} {after : World σ}
      (failed : entry.generator.run purpose amount (purpose.contextAfter name past) world = (.error cause, after)) :
      StopsAt purpose name past amount world entry (.stepFailed name entry.generator.name cause)
  | tag {step : BuiltStep} {after : World σ} {tag : String}
      (ran : entry.generator.run purpose amount (purpose.contextAfter name past) world = (.ok step, after))
      (emits : entry.options.onlyLocal = false) (tagged : entry.options.tag = some tag)
      (again : tag ∈ (tagsOf past).map Prod.fst) :
      StopsAt purpose name past amount world entry (.duplicateTag name tag)

/-- How a build stops, with its error. -/
inductive Workflow.Stops (workflow : Workflow σ) (purpose : Purpose) : WorkflowError → Prop
  /-- Behind some turns, the generator of an entry that is not left out fails. -/
  | run {turns : List (Turn σ)} {entry : Entry (Generator σ)} {amount out : Uint256} {world last after : World σ}
      {cause : WorkflowError} (isEntry : entry ∈ workflow.entries) (few : turns.length < workflow.entries.length)
      (order : purpose.mode.isReversed = false → turns.map Turn.entry ++ [entry] <+: workflow.entries)
      (walked : Walked purpose workflow.name [] amount world turns out last)
      (isIn : entry.options.leavesOut out (purpose.contextAfter workflow.name (recordsOf turns)) = false)
      (failed : entry.generator.run purpose out (purpose.contextAfter workflow.name (recordsOf turns)) last =
        (.error cause, after)) :
      Stops workflow purpose (.stepFailed workflow.name entry.generator.name cause)
  /-- The step of a turn was given a tag that the turns of earlier entries have recorded. -/
  | tag {turns : List (Turn σ)} {turn : Turn σ} {tag : String}
      (entries : (turns ++ [turn]).map Turn.entry <+: workflow.entries)
      (taken : ∀ other ∈ turns ++ [turn], other.Taken purpose)
      (mode : ∀ other ∈ turns ++ [turn], other.context.mode = purpose.mode)
      (emits : turn.emits = true) (tagged : turn.entry.options.tag = some tag)
      (again : tag ∈ (tagsOf (recordsOf turns)).map Prod.fst) :
      Stops workflow purpose (.duplicateTag workflow.name tag)

namespace Build

variable {records : List Recorded} {build : Build} {name : String} {e : WorkflowError}

/-- A step is refused for its tag, which is there already. -/
theorem Holds.record_error (holds : Holds records build) {options : StepOptions} {step : BuiltStep}
    (refused : build.record name options step = .error e) :
    options.onlyLocal = false ∧ ∃ tag, options.tag = some tag ∧ tag ∈ (tagsOf records).map Prod.fst ∧
      e = .duplicateTag name tag := by
  simp only [Build.record] at refused
  split at refused
  · cases refused
  case isFalse emits =>
    refine ⟨by simpa using emits, ?_⟩
    cases tagged : options.tag with
    | none => simp [registerTag, tagged] at refused
    | some tag =>
      simp only [registerTag, tagged] at refused
      by_cases again : (build.tags.lookup tag).isSome = true
      · rw [if_pos again] at refused
        rw [← holds.tags]
        obtain ⟨position, found⟩ := Option.isSome_iff_exists.mp again
        have isIn := (lookup_eq_some_iff_mem holds.tags_nodup).mp found
        exact ⟨tag, rfl, List.mem_map_of_mem isIn, (Except.error.inj refused).symm⟩
      · rw [if_neg again] at refused
        cases refused

/-- Many steps are refused for the tag of one of them. -/
theorem Holds.recordAll_error (holds : Holds records build) {more : List Recorded}
    (refused : build.recordAll name more = .error e) :
    ∃ before step options behind tag, more = before ++ (step, options) :: behind ∧ options.onlyLocal = false ∧
      options.tag = some tag ∧ tag ∈ (tagsOf (records ++ before)).map Prod.fst ∧ e = .duplicateTag name tag := by
  induction more generalizing records build with
  | nil => cases refused
  | cons first rest ih =>
    obtain ⟨step, options⟩ := first
    simp only [Build.recordAll] at refused
    split at refused
    case h_1 once =>
      obtain rfl := Except.error.inj refused
      obtain ⟨emits, tag, tagged, again, rfl⟩ := holds.record_error once
      exact ⟨[], step, options, rest, tag, rfl, emits, tagged, by rwa [List.append_nil], rfl⟩
    case h_2 next once =>
      obtain ⟨before, other, otherOptions, behind, tag, rfl, emits, tagged, again, rfl⟩ :=
        ih (holds.record once) refused
      refine ⟨(step, options) :: before, other, otherOptions, behind, tag, rfl, emits, tagged, ?_, rfl⟩
      rwa [List.append_cons]

end Build

/-! ## Walks that fail -/

section Walks

variable {purpose : Purpose} {name : String} {entries : List (Entry (Generator σ))} {amount : Uint256}
  {world after : World σ} {e : WorkflowError}

/-- A walk forward that fails stops at an entry, behind the turns of the entries before it. -/
theorem walk_error (forward : purpose.mode.isReversed = false) {build : Build} {past : List Recorded}
    (holds : build.Holds past) (walked : walk purpose name entries amount build world = (.error e, after)) :
    ∃ turns entry rest out last, entries = turns.map Turn.entry ++ entry :: rest ∧
      Walked purpose name past amount world turns out last ∧
      entry.options.leavesOut out (purpose.contextAfter name (past ++ recordsOf turns)) = false ∧
      StopsAt purpose name (past ++ recordsOf turns) out last entry e := by
  induction entries generalizing amount build past world with
  | nil => simp [walk] at walked
  | cons entry rest ih =>
    obtain ⟨generator, options⟩ := entry
    simp only [walk, holds.forwardContext forward] at walked
    split at walked
    case isTrue isOut =>
      obtain ⟨turns, entry, rest, out, last, rfl, walked, isIn, stops⟩ := ih holds walked
      let turn : Turn σ := ⟨⟨generator, options⟩, amount, purpose.contextAfter name past, world, none, world⟩
      have records : past ++ recordsOf (turn :: turns) = past ++ recordsOf turns := by rw [recordsOf_cons]; rfl
      refine ⟨turn :: turns, entry, rest, out, last, rfl, ?_, ?_, ?_⟩
      · exact .next (.leftOut isOut) rfl (by simpa [Turn.record?, Turn.amountOut] using walked)
      · rwa [records]
      · rwa [records]
    case isFalse isIn =>
      have isIn : options.leavesOut amount (purpose.contextAfter name past) = false := by simpa using isIn
      split at walked
      case h_1 cause _ failed =>
        obtain ⟨rfl, rfl⟩ : WorkflowError.stepFailed name generator.name cause = e ∧ _ = after := by
          simpa using walked
        refine ⟨[], ⟨generator, options⟩, rest, amount, world, rfl, .done, ?_, ?_⟩
        · rwa [recordsOf_nil, List.append_nil]
        · rw [recordsOf_nil, List.append_nil]
          exact .run failed
      case h_2 step middle ran =>
        split at walked
        case h_1 refused =>
          obtain ⟨rfl, rfl⟩ : _ = e ∧ middle = after := by simpa using walked
          obtain ⟨emits, tag, tagged, again, rfl⟩ := holds.record_error refused
          refine ⟨[], ⟨generator, options⟩, rest, amount, world, rfl, .done, ?_, ?_⟩
          · rwa [recordsOf_nil, List.append_nil]
          · rw [recordsOf_nil, List.append_nil]
            exact .tag ran emits tagged again
        case h_2 next recorded =>
          obtain ⟨turns, entry, rest, out, last, rfl, walked, isInThere, stops⟩ := ih (holds.record recorded) walked
          let turn : Turn σ :=
            ⟨⟨generator, options⟩, amount, purpose.contextAfter name past, world, some step, middle⟩
          have records : past ++ recordsOf (turn :: turns) = past ++ [(step, options)] ++ recordsOf turns := by
            rw [recordsOf_cons, ← List.append_assoc]
            rfl
          refine ⟨turn :: turns, entry, rest, out, last, rfl, .next (.made isIn ran) rfl walked, ?_, ?_⟩
          · rwa [records]
          · rwa [records]

/-- A walk backward that fails stops at a generator, behind the turns of the entries after it. -/
theorem walkBack_error (backward : purpose.mode.isReversed = true)
    (walked : walkBack purpose name entries amount world = (.error e, after)) :
    ∃ front entry turns out last cause after, entries = front ++ entry :: turns.reverse.map Turn.entry ∧
      Walked purpose name [] amount world turns out last ∧
      entry.options.leavesOut out (purpose.contextAfter name (recordsOf turns)) = false ∧
      entry.generator.run purpose out (purpose.contextAfter name (recordsOf turns)) last = (.error cause, after) ∧
      e = .stepFailed name entry.generator.name cause := by
  induction entries generalizing after with
  | nil => simp [walkBack] at walked
  | cons entry rest ih =>
    obtain ⟨generator, options⟩ := entry
    simp only [walkBack] at walked
    split at walked
    case h_1 walkedRest =>
      obtain ⟨rfl, rfl⟩ : _ = e ∧ _ = after := by simpa using walked
      obtain ⟨front, entry, turns, out, last, cause, after, rfl, stops⟩ := ih walkedRest
      exact ⟨⟨generator, options⟩ :: front, entry, turns, out, last, cause, after, rfl, stops⟩
    case h_2 running behind middle walkedRest =>
      obtain ⟨turns, entries, walkedTurns, records⟩ := walkBack_ok backward walkedRest
      have sees : purpose.backwardContext name behind = purpose.contextAfter name (recordsOf turns.reverse) := by
        rw [recordsOf_reverse, records, purpose.backwardContext_eq backward]
      split at walked
      · simp at walked
      case isFalse isIn =>
        split at walked
        case h_1 cause last failed =>
          obtain ⟨rfl, rfl⟩ : WorkflowError.stepFailed name generator.name cause = e ∧ last = after := by
            simpa using walked
          rw [sees] at isIn failed
          refine ⟨[], ⟨generator, options⟩, turns.reverse, running, middle, cause, last, ?_, walkedTurns, ?_,
            failed, rfl⟩
          · rw [List.reverse_reverse, entries]
            rfl
          · simpa using isIn
        · simp at walked

end Walks

/-! ## Builds that fail -/

/-- A record of some turns was recorded by one of them. -/
theorem turns_of_recordsOf_eq_append {turns : List (Turn σ)} {before behind : List Recorded} {record : Recorded}
    (records : recordsOf turns = before ++ record :: behind) :
    ∃ passed turn rest, turns = passed ++ turn :: rest ∧ recordsOf passed = before ∧ turn.record? = some record := by
  obtain ⟨passed, others, rfl, isBefore, isBehind⟩ := List.filterMap_eq_append_iff.mp records
  obtain ⟨silent, turn, rest, rfl, isSilent, recorded, -⟩ := List.filterMap_eq_cons_iff.mp isBehind
  refine ⟨passed ++ silent, turn, rest, by rw [List.append_assoc], ?_, recorded⟩
  have nothing : recordsOf silent = [] := List.filterMap_eq_nil_iff.mpr isSilent
  rw [recordsOf, List.filterMap_append]
  show recordsOf passed ++ recordsOf silent = before
  rw [nothing, List.append_nil]
  exact isBefore

section Builds

variable {workflow : Workflow σ} {purpose : Purpose} {amount out : Uint256} {world last after : World σ}
  {turns : List (Turn σ)} {e : WorkflowError}

/-- An entry that stops a walk stops the build. -/
theorem Workflow.stops_of_stopsAt {entry : Entry (Generator σ)} {rest : List (Entry (Generator σ))}
    (entries : workflow.entries = turns.map Turn.entry ++ entry :: rest)
    (walked : Walked purpose workflow.name [] amount world turns out last)
    (isIn : entry.options.leavesOut out (purpose.contextAfter workflow.name (recordsOf turns)) = false)
    (stops : StopsAt purpose workflow.name (recordsOf turns) out last entry e) : workflow.Stops purpose e := by
  have first : turns.map Turn.entry ++ [entry] <+: workflow.entries := by
    rw [entries, List.append_cons _ entry rest]
    exact List.prefix_append _ _
  cases stops with
  | run failed => exact .run (by simp [entries]) (by simp [entries]) (fun _ => first) walked isIn failed
  | @tag step after tag ran emits tagged again =>
    let turn : Turn σ := ⟨entry, out, purpose.contextAfter workflow.name (recordsOf turns), last, some step, after⟩
    have taken : turn.Taken purpose := .made isIn ran
    have all := walked.snoc taken rfl rfl rfl
    refine .tag ?_ all.taken all.context_mode ?_ tagged again
    · rwa [List.map_append]
    · simp [Turn.emits, Turn.isLeftOut, turn, isIn, emits]

/-- So does one of the turns when all are over and their records are refused. -/
theorem Workflow.stops_of_recordAll_error (entries : turns.map Turn.entry = workflow.entries)
    (taken : ∀ turn ∈ turns, turn.Taken purpose) (mode : ∀ turn ∈ turns, turn.context.mode = purpose.mode)
    (refused : Build.recordAll workflow.name (recordsOf turns) .empty = .error e) : workflow.Stops purpose e := by
  obtain ⟨before, step, options, behind, tag, more, emits, tagged, again, rfl⟩ :=
    Build.Holds.empty.recordAll_error refused
  obtain ⟨passed, turn, rest, rfl, rfl, recorded⟩ := turns_of_recordsOf_eq_append more
  obtain ⟨made, isMade, same⟩ := Option.map_eq_some_iff.mp recorded
  obtain ⟨rfl, rfl⟩ := Prod.mk.inj same
  have first : passed ++ [turn] <+: passed ++ turn :: rest := by
    rw [List.append_cons passed turn rest]
    exact List.prefix_append _ rest
  have isIn := taken turn (by simp)
  refine .tag (entries ▸ first.map Turn.entry) (fun other isOther => taken other (first.subset isOther))
    (fun other isOther => mode other (first.subset isOther)) ?_ tagged again
  rw [Turn.emits, ← isIn.isSome_step?, isMade, emits]
  rfl

/-- Every build that fails stops in one of the two ways. -/
theorem Workflow.buildFor_error (failed : workflow.buildFor purpose amount world = (.error e, after)) :
    workflow.Stops purpose e := by
  simp only [buildFor, buildInto] at failed
  cases direction : purpose.mode.isReversed with
  | false =>
    simp only [direction, Bool.false_eq_true, ↓reduceIte] at failed
    split at failed
    case h_2 => simp at failed
    case h_1 walked =>
      obtain ⟨rfl, rfl⟩ : _ = e ∧ _ = after := by simpa using failed
      obtain ⟨turns, entry, rest, out, last, entries, turnsWalked, isIn, stops⟩ :=
        walk_error direction .empty walked
      rw [List.nil_append] at isIn stops
      exact stops_of_stopsAt entries turnsWalked isIn stops
  | true =>
    simp only [direction, ↓reduceIte] at failed
    split at failed
    case h_2 => simp at failed
    case h_1 stopped last result =>
      obtain ⟨rfl, rfl⟩ : stopped = e ∧ last = after := by simpa using failed
      split at result
      case h_1 first middle walked =>
        obtain ⟨rfl, rfl⟩ : first = stopped ∧ middle = last := by simpa using result
        obtain ⟨front, entry, turns, out, last, cause, after, entries, turnsWalked, isIn, ran, rfl⟩ :=
          walkBack_error direction walked
        have few : turns.length < workflow.entries.length := by
          simp only [entries, List.length_append, List.length_cons, List.length_map, List.length_reverse]
          omega
        exact .run (by simp [entries]) few (fun forward => by simp [direction] at forward) turnsWalked isIn ran
      case h_2 walk middle walked =>
        obtain ⟨refused, rfl⟩ := Prod.mk.inj result
        obtain ⟨turns, entries, turnsWalked, records⟩ := walkBack_ok direction walked
        simp only [BackwardWalk.build] at refused
        cases all : Build.recordAll workflow.name walk.2 .empty with
        | ok build => simp [all, Except.map] at refused
        | error cause =>
          obtain rfl : cause = stopped := by simpa [all, Except.map] using refused
          rw [← records] at all
          exact stops_of_recordAll_error entries (fun turn isIn => turnsWalked.taken turn (by simpa using isIn))
            (fun turn isIn => turnsWalked.context_mode turn (by simpa using isIn)) all

end Builds

end CallWeave
