import CallWeave.Workflow.Build
import Mathlib.Algebra.Ring.Nat
import Mathlib.Data.List.Nodup

/-!
# Builds as functions of their records

A build is kept up step by step in four fields that have to agree: the steps, the places of the
emitted ones, the tags and the value. `Build.Holds records build` says what all of them are in terms
of the recorded steps alone. Recording one more step keeps this (`Build.Holds.record`), and so does
recording many (`Build.Holds.recordAll`); whatever is known of a list of records is then known of
the build.

The value is the sum of all costs modulo `2 ^ 256`; the other fields are lists of the records as
they are.
-/

namespace CallWeave

/-- A step as it is recorded, with the options of its generator. -/
abbrev Recorded := BuiltStep × StepOptions

/-- The recorded steps that emit a call. -/
def callsOf (records : List Recorded) : List Recorded :=
  records.filter fun record => !record.2.onlyLocal

/-- The tags of the emitted steps, each with the position of its step among them. -/
def tagsOf (records : List Recorded) : TagIndex :=
  (callsOf records).zipIdx.filterMap fun (record, position) => record.2.tag.map (·, position)

/-- The currency that a step needs, as a number. -/
def BuiltStep.cost (step : BuiltStep) : Nat := (step.value.getD 0).toNat

/-- The currency that all recorded steps need, without a bound. -/
def totalOf (records : List Recorded) : Nat := (records.map fun record => record.1.cost).sum

/-- What a build is, in terms of the steps recorded in it. -/
structure Build.Holds (records : List Recorded) (build : Build) : Prop where
  steps : build.steps = records.map Prod.fst
  emittedSteps : build.emittedSteps = (callsOf records).map Prod.fst
  emitted_length : build.emitted.length = (callsOf records).length
  emitted_lt : ∀ place ∈ build.emitted, place < build.steps.length
  tags : build.tags = tagsOf records
  /-- No tag is registered twice. -/
  tags_nodup : (build.tags.map Prod.fst).Nodup
  value : build.value = BitVec.ofNat 256 (totalOf records)

/-! ## One more record -/

theorem callsOf_append (records more : List Recorded) :
    callsOf (records ++ more) = callsOf records ++ callsOf more :=
  List.filter_append ..

theorem callsOf_local {step : BuiltStep} {options : StepOptions} (isLocal : options.onlyLocal = true) :
    callsOf [(step, options)] = [] := by
  simp [callsOf, isLocal]

theorem callsOf_emitting {step : BuiltStep} {options : StepOptions} (emits : options.onlyLocal = false) :
    callsOf [(step, options)] = [(step, options)] := by
  simp [callsOf, emits]

/-- A local step leaves the tags alone. -/
theorem tagsOf_append_local (records : List Recorded) {step : BuiltStep} {options : StepOptions}
    (isLocal : options.onlyLocal = true) : tagsOf (records ++ [(step, options)]) = tagsOf records := by
  simp only [tagsOf, callsOf_append, callsOf_local isLocal, List.append_nil]

/-- An emitted step adds its tag with the next position. -/
theorem tagsOf_append_emitting (records : List Recorded) {step : BuiltStep} {options : StepOptions}
    (emits : options.onlyLocal = false) :
    tagsOf (records ++ [(step, options)]) =
      tagsOf records ++ (options.tag.map (·, (callsOf records).length)).toList := by
  simp only [tagsOf, callsOf_append, callsOf_emitting emits, List.zipIdx_append, List.filterMap_append,
    Nat.zero_add, List.zipIdx_singleton]
  cases tagged : options.tag <;> simp [tagged]

theorem totalOf_append (records more : List Recorded) :
    totalOf (records ++ more) = totalOf records + totalOf more := by
  simp [totalOf]

/-- Adding the value of a step to a sum modulo `2 ^ 256` is adding its cost to the sum. -/
theorem ofNat_totalOf_append (records : List Recorded) (step : BuiltStep) (options : StepOptions) :
    BitVec.ofNat 256 (totalOf (records ++ [(step, options)])) =
      BitVec.ofNat 256 (totalOf records) + step.value.getD 0 := by
  rw [totalOf_append, BitVec.ofNat_add]
  simp [totalOf, BuiltStep.cost]

/-! ## Tags -/

/-- A tag belongs to a position exactly if the call at that position was given the tag. -/
theorem mem_tagsOf {records : List Recorded} {tag : String} {position : Nat} :
    (tag, position) ∈ tagsOf records ↔
      ∃ record, (callsOf records)[position]? = some record ∧ record.2.tag = some tag := by
  simp only [tagsOf, List.mem_filterMap, Prod.exists, List.mem_zipIdx_iff_getElem?, Option.map_eq_some_iff,
    Prod.mk.injEq]
  constructor
  · rintro ⟨step, options, place, found, t, tagged, rfl, rfl⟩
    exact ⟨step, options, found, tagged⟩
  · rintro ⟨step, options, found, tagged⟩
    exact ⟨step, options, position, found, tag, tagged, rfl, rfl⟩

/-- Without repeated tags, looking a tag up is finding it. -/
theorem lookup_eq_some_iff_mem {tags : TagIndex} (nodup : (tags.map Prod.fst).Nodup) {tag : String}
    {position : Nat} : tags.lookup tag = some position ↔ (tag, position) ∈ tags := by
  constructor
  · intro found
    obtain ⟨before, after, rfl, -⟩ := List.lookup_eq_some_iff.mp found
    simp
  · intro isIn
    obtain ⟨before, after, rfl⟩ := List.append_of_mem isIn
    refine List.lookup_eq_some_iff.mpr ⟨before, after, rfl, fun other isBefore => ?_⟩
    rw [List.map_append, List.map_cons] at nodup
    have isBefore : other.1 ∈ before.map Prod.fst := List.mem_map_of_mem isBefore
    have apart := (List.nodup_append.mp nodup).2.2 other.1 isBefore tag List.mem_cons_self
    simpa using apart.symm

/-- A tag is registered when it is not there yet. -/
theorem Build.registerTag_ok {workflow : String} {tag : Option String} {build : Build} {tags : TagIndex}
    (registered : build.registerTag workflow tag = .ok tags) :
    tags = build.tags ++ (tag.map (·, build.emitted.length)).toList ∧
      ∀ t ∈ tag, t ∉ build.tags.map Prod.fst := by
  cases tag with
  | none =>
    obtain rfl : build.tags = tags := by simpa [registerTag] using registered
    simp
  | some t =>
    simp only [registerTag] at registered
    split at registered
    · cases registered
    · rename_i absent
      obtain rfl : build.tags ++ [(t, build.emitted.length)] = tags := by simpa using registered
      have unused : t ∉ build.tags.map Prod.fst := by simpa using absent
      simpa using unused

namespace Build

variable {records : List Recorded} {build : Build} {name : String}

/-- The empty build holds no records. -/
theorem Holds.empty : Holds [] empty where
  steps := rfl
  emittedSteps := rfl
  emitted_length := rfl
  emitted_lt := by simp [Build.empty]
  tags := rfl
  tags_nodup := List.nodup_nil
  value := rfl

/-- The running amount at the end is no matter of the records. -/
theorem Holds.withAmount (holds : Holds records build) (amount : Uint256) :
    Holds records { build with amountOut := amount } :=
  ⟨holds.steps, holds.emittedSteps, holds.emitted_length, holds.emitted_lt, holds.tags, holds.tags_nodup,
    holds.value⟩

/-- Steps behind the emitted places do not change what is emitted. -/
theorem Holds.emittedSteps_append (holds : Holds records build) (step : BuiltStep) :
    build.emitted.filterMap ((build.steps ++ [step])[·]?) = build.emittedSteps :=
  List.filterMap_congr fun place isEmitted => List.getElem?_append_left (holds.emitted_lt place isEmitted)

/-- One more step adds its value. -/
theorem Holds.value_append (holds : Holds records build) (step : BuiltStep) (options : StepOptions) :
    build.value + step.value.getD 0 = BitVec.ofNat 256 (totalOf (records ++ [(step, options)])) := by
  rw [holds.value, ofNat_totalOf_append]

/-- One more step comes last. -/
theorem Holds.steps_append (holds : Holds records build) (step : BuiltStep) (options : StepOptions) :
    build.steps ++ [step] = (records ++ [(step, options)]).map Prod.fst := by
  rw [holds.steps, List.map_append]
  rfl

/-- A local step is recorded without a place and without a tag. -/
theorem Holds.recordLocal (holds : Holds records build) {options : StepOptions}
    (isLocal : options.onlyLocal = true) (step : BuiltStep) :
    Holds (records ++ [(step, options)])
      { build with steps := build.steps ++ [step], value := build.value + step.value.getD 0 } := by
  have calls : callsOf (records ++ [(step, options)]) = callsOf records := by
    rw [callsOf_append, callsOf_local isLocal, List.append_nil]
  refine ⟨holds.steps_append step options, ?_, ?_, ?_, ?_, holds.tags_nodup, holds.value_append step options⟩
  · rw [calls, ← holds.emittedSteps]
    exact holds.emittedSteps_append step
  · rw [calls]
    exact holds.emitted_length
  · intro place isEmitted
    have := holds.emitted_lt place isEmitted
    simp only [List.length_append, List.length_singleton]
    omega
  · rw [tagsOf_append_local records isLocal]
    exact holds.tags

/-- A step that emits a call is recorded with the next place, under a tag that is not there yet. -/
theorem Holds.recordEmitting (holds : Holds records build) {options : StepOptions}
    (emits : options.onlyLocal = false) (unused : ∀ tag ∈ options.tag, tag ∉ build.tags.map Prod.fst)
    (step : BuiltStep) :
    Holds (records ++ [(step, options)])
      { build with
        steps := build.steps ++ [step]
        emitted := build.emitted ++ [build.steps.length]
        tags := build.tags ++ (options.tag.map (·, build.emitted.length)).toList
        value := build.value + step.value.getD 0 } := by
  have calls : callsOf (records ++ [(step, options)]) = callsOf records ++ [(step, options)] := by
    rw [callsOf_append, callsOf_emitting emits]
  refine ⟨holds.steps_append step options, ?_, ?_, ?_, ?_, ?_, holds.value_append step options⟩
  · -- the old places still hold the old steps, and the new place holds the new one
    have last : (build.steps ++ [step])[build.steps.length]? = some step := by simp
    rw [calls, List.map_append, ← holds.emittedSteps, ← holds.emittedSteps_append step]
    simp only [Build.emittedSteps, List.filterMap_append, List.filterMap_cons, last, List.filterMap_nil,
      List.map_cons, List.map_nil]
  · rw [calls, List.length_append, List.length_append, holds.emitted_length]
    rfl
  · intro place isEmitted
    simp only [List.length_append, List.length_singleton]
    rcases List.mem_append.mp isEmitted with old | new
    · have := holds.emitted_lt place old
      omega
    · have := List.mem_singleton.mp new
      omega
  · rw [tagsOf_append_emitting records emits, holds.tags, holds.emitted_length]
  · rw [List.map_append]
    refine List.nodup_append.mpr ⟨holds.tags_nodup, ?_, ?_⟩
    · cases options.tag <;> simp
    · intro t old u new
      cases tagged : options.tag with
      | none => simp [tagged] at new
      | some tag =>
        have isNew : u = tag := by simpa [tagged] using new
        intro same
        exact unused tag tagged (isNew ▸ same ▸ old)

/-- Recording a step makes a build that holds it as well. -/
theorem Holds.record (holds : Holds records build) {options : StepOptions} {step : BuiltStep} {next : Build}
    (recorded : build.record name options step = .ok next) :
    Holds (records ++ [(step, options)]) next := by
  simp only [Build.record] at recorded
  split at recorded
  case isTrue isLocal =>
    obtain rfl := Except.ok.inj recorded
    exact holds.recordLocal isLocal step
  case isFalse emits =>
    split at recorded
    case h_1 => cases recorded
    case h_2 tags registered =>
      obtain rfl := Except.ok.inj recorded
      obtain ⟨rfl, unused⟩ := registerTag_ok registered
      exact holds.recordEmitting (by simpa using emits) unused step

/-- Recording many steps makes a build that holds them as well. -/
theorem Holds.recordAll {more : List Recorded} {next : Build} (holds : Holds records build)
    (recorded : build.recordAll name more = .ok next) : Holds (records ++ more) next := by
  induction more generalizing records build with
  | nil =>
    obtain rfl := Except.ok.inj recorded
    rwa [List.append_nil]
  | cons first rest ih =>
    obtain ⟨step, options⟩ := first
    simp only [Build.recordAll] at recorded
    split at recorded
    · cases recorded
    case h_2 middle once =>
      rw [List.append_cons]
      exact ih (holds.record once) recorded

end Build

end CallWeave
