import CallWeave.Proofs.Codec.EntryPoints
import CallWeave.Proofs.Plan.Outbound
import CallWeave.Proofs.Plan.Success
import CallWeave.Proofs.Sharing.Copy
import Mathlib.Data.Nat.Find

/-!
# Plans that are encoded

A build that succeeded may still have no outbound call. The call of a level is made of those of the levels that
its sent steps hold (`PlanLevel.Carries`), and any of these may have nothing to send, or a call without a target
behind a pipe. `PlanLevel.Encodable` says that none is like that, and `PlanLevel.Lacks` which of them is met
first: the nested plans of a level come before its own targets, and each before those behind it. A level is either
encodable or lacks something (`PlanLevel.encodable_or_lacks`), which settles what `finalize` answers
(`PlanLevel.finalize_error_iff_lacks`).
-/

namespace CallWeave

variable {σ : Type}

/-- Whether a step is a raw call without a target. -/
def PlanStepOf.lacksTarget {δ : Type} (step : PlanStepOf δ) : Bool :=
  step.workflow.isNone && step.target.isNone

namespace PlanLevel

/-! ## What is encoded -/

/-- The levels that are part of the call of a level: itself, and those below its sent steps. -/
inductive Carries (mode : RunMode) : PlanLevel → PlanLevel → Prop
  | self {level : PlanLevel} : Carries mode level level
  | within {level deep : PlanLevel} {place : Nat} {step : PlanStep} {inner : PlanDocument}
      (isStep : level.plan.steps[place]? = some step) (isSent : step.isSent mode = true)
      (holds : step.workflow = some inner) (deeper : Carries mode (level.inside place step inner) deep) :
      Carries mode level deep

/-- A level has something to send, and if it is a pipe, each of its raw calls that are sent has a target. -/
structure Complete (mode : RunMode) (level : PlanLevel) : Prop where
  sends : ∃ step ∈ level.plan.steps, step.isSent mode = true
  targets : level.plan.kind = .advancedPipe →
    ∀ step ∈ level.plan.steps, step.isSent mode = true → step.workflow = none → step.target.isSome

/-- Everything that is part of the call of a level is complete. -/
def Encodable (mode : RunMode) (level : PlanLevel) : Prop :=
  ∀ deep, Carries mode level deep → deep.Complete mode

/-- What a level lacks to be encoded, as the error that says so. The plans of sent steps are asked in the order of
the plan, all of them before the level looks for a target of its own. -/
inductive Lacks (mode : RunMode) : PlanLevel → WorkflowError → Prop
  | calls {level : PlanLevel} (none : ∀ step ∈ level.plan.steps, step.isSent mode = false) :
      Lacks mode level (.emptySequence level.name)
  | inside {level : PlanLevel} {place : Nat} {step : PlanStep} {inner : PlanDocument} {e : WorkflowError}
      (isStep : level.plan.steps[place]? = some step) (isSent : step.isSent mode = true)
      (holds : step.workflow = some inner) (lacks : Lacks mode (level.inside place step inner) e)
      (first : ∀ earlier < place, ∀ (other : PlanStep) (plan : PlanDocument),
        level.plan.steps[earlier]? = some other → other.isSent mode = true → other.workflow = some plan →
        (level.inside earlier other plan).Encodable mode) :
      Lacks mode level e
  | target {level : PlanLevel} {step : PlanStep} (isPipe : level.plan.kind = .advancedPipe)
      (isFirst : level.plan.steps.find? (fun step => step.isSent mode && step.lacksTarget) = some step)
      (nested : ∀ (place : Nat) (other : PlanStep) (plan : PlanDocument),
        level.plan.steps[place]? = some other → other.isSent mode = true → other.workflow = some plan →
        (level.inside place other plan).Encodable mode) :
      Lacks mode level (.missingTarget step.name)

/-- A level that lacks something names itself or one that it carries, which has nothing to send or is a pipe with
a raw call without a target. -/
def Blames (mode : RunMode) (level : PlanLevel) (e : WorkflowError) : Prop :=
  ∃ deep, Carries mode level deep ∧
    ((∀ step ∈ deep.plan.steps, step.isSent mode = false) ∧ e = .emptySequence deep.name ∨
      deep.plan.kind = .advancedPipe ∧ ∃ step ∈ deep.plan.steps,
        step.isSent mode = true ∧ step.workflow = none ∧ step.target = none ∧ e = .missingTarget step.name)

variable {contracts : Contracts} {mode : RunMode} {level : PlanLevel} {e : WorkflowError}

/-- A level is encodable when it is complete and those below its sent steps are encodable. -/
theorem encodable_iff :
    level.Encodable mode ↔ level.Complete mode ∧
      ∀ (place : Nat) (step : PlanStep) (inner : PlanDocument), level.plan.steps[place]? = some step →
        step.isSent mode = true → step.workflow = some inner → (level.inside place step inner).Encodable mode := by
  constructor
  · intro encodable
    exact ⟨encodable _ .self, fun place step inner isStep isSent holds deep deeper =>
      encodable deep (.within isStep isSent holds deeper)⟩
  · rintro ⟨complete, below⟩ deep carries
    cases carries with
    | self => exact complete
    | within isStep isSent holds deeper => exact below _ _ _ isStep isSent holds deep deeper

/-- A raw call without a target is found exactly if there is one. -/
theorem find?_lacksTarget_eq_none_iff {steps : List PlanStep} :
    steps.find? (fun step => step.isSent mode && step.lacksTarget) = none ↔
      ∀ step ∈ steps, step.isSent mode = true → step.workflow = none → step.target.isSome := by
  rw [List.find?_eq_none]
  refine forall₂_congr fun step _ => ?_
  cases step.isSent mode <;> cases flat : step.workflow <;> cases target : step.target <;>
    simp [PlanStepOf.lacksTarget, flat, target]

/-- No step is left to send exactly if none is sent. -/
theorem isEmpty_sent_iff {steps : List PlanStep} :
    (steps.filter (·.isSent mode)).isEmpty = true ↔ ∀ step ∈ steps, step.isSent mode = false := by
  simp

/-- With a sent step there is something to send. -/
theorem not_isEmpty_sent {steps : List PlanStep} (sends : ∃ step ∈ steps, step.isSent mode = true) :
    ¬ (steps.filter (·.isSent mode)).isEmpty = true := by
  obtain ⟨step, isIn, isSent⟩ := sends
  exact fun isEmpty => by simp [isEmpty_sent_iff.mp isEmpty step isIn] at isSent

/-- What is lacking is lacking somewhere among what the level carries. -/
theorem Lacks.blames (lacks : level.Lacks mode e) : level.Blames mode e := by
  induction lacks with
  | @calls level none => exact ⟨level, .self, .inl ⟨none, rfl⟩⟩
  | inside isStep isSent holds _ _ ih =>
    obtain ⟨deep, deeper, blamed⟩ := ih
    exact ⟨deep, .within isStep isSent holds deeper, blamed⟩
  | @target level step isPipe isFirst _ =>
    have isTargetless := List.find?_some isFirst
    simp only [PlanStepOf.lacksTarget, Bool.and_eq_true, Option.isNone_iff_eq_none] at isTargetless
    obtain ⟨isSent, flat, target⟩ := isTargetless
    exact ⟨level, .self, .inr ⟨isPipe, step, List.mem_of_find?_eq_some isFirst, isSent, flat, target, rfl⟩⟩

/-- A level that is not encodable lacks something. -/
theorem encodable_or_lacks (mode : RunMode) (level : PlanLevel) : level.Encodable mode ∨ ∃ e, level.Lacks mode e := by
  classical
  induction level using PlanLevel.induction with
  | level level ih =>
    -- the plan of the sent step at a place is not encodable
    let isStuck (place : Nat) : Prop := ∃ step inner, level.plan.steps[place]? = some step ∧
      step.isSent mode = true ∧ step.workflow = some inner ∧ ¬ (level.inside place step inner).Encodable mode
    by_cases sends : ∃ step ∈ level.plan.steps, step.isSent mode = true
    case neg =>
      refine .inr ⟨_, .calls fun step isIn => ?_⟩
      exact Bool.eq_false_iff.mpr fun isSent => sends ⟨step, isIn, isSent⟩
    by_cases stuck : ∃ place, isStuck place
    · -- the first such place says what is lacking
      obtain ⟨step, inner, isStep, isSent, holds, notEncodable⟩ := Nat.find_spec stuck
      obtain ⟨e, lacks⟩ := (ih _ step inner isStep holds).resolve_left notEncodable
      refine .inr ⟨e, .inside isStep isSent holds lacks fun earlier isLess other plan isThere sent held => ?_⟩
      by_contra notEncodable'
      exact Nat.find_min stuck isLess ⟨other, plan, isThere, sent, held, notEncodable'⟩
    have nested (place : Nat) (step : PlanStep) (inner : PlanDocument) (isStep : level.plan.steps[place]? = some step)
        (isSent : step.isSent mode = true) (holds : step.workflow = some inner) :
        (level.inside place step inner).Encodable mode := by
      by_contra notEncodable
      exact stuck ⟨place, step, inner, isStep, isSent, holds, notEncodable⟩
    by_cases isPipe : level.plan.kind = .advancedPipe
    · cases isFirst : level.plan.steps.find? (fun step => step.isSent mode && step.lacksTarget) with
      | some step => exact .inr ⟨_, .target isPipe isFirst nested⟩
      | none => exact .inl (encodable_iff.mpr ⟨⟨sends, fun _ => find?_lacksTarget_eq_none_iff.mp isFirst⟩, nested⟩)
    · exact .inl (encodable_iff.mpr ⟨⟨sends, fun isPipe' => absurd isPipe' isPipe⟩, nested⟩)

end PlanLevel

/-! ## Calls -/

namespace PlanDocument

variable {contracts : Contracts} {mode : RunMode} {before rest : List PlanStep} {e : WorkflowError}

/-- The outbound call of a plan is that of its steps. -/
theorem outboundIn_eq (plan : PlanDocument) (name : String) :
    plan.outboundIn contracts mode name =
      if (plan.steps.filter (·.isSent mode)).isEmpty then .error (.emptySequence name)
      else match callsIn contracts mode plan.steps [] with
        | .error e => .error e
        | .ok calls =>
          let encoder := Encoder.ofContracts contracts plan.kind
          match encoder.encodeArguments calls (plan.valueIn mode) with
          | .error e => .error e
          | .ok arguments =>
            .ok ⟨encoder.target, encoder.kind.function, encoder.kind.selector, arguments, plan.valueIn mode⟩ := by
  obtain ⟨workflow, kind, inside⟩ := plan
  rw [outboundIn, valueIn]
  rfl

end PlanDocument

/-- A call is that of a step as far as its target goes: it lacks one if the step does, and then has its name. -/
structure NamedCall.Serves (step : PlanStep) (named : NamedCall) : Prop where
  isNone_target : named.call.target.isNone = step.lacksTarget
  name : step.lacksTarget = true → named.step = step.name

namespace PlanDocument

/-- A nested plan is called at the contract of its entry point, and a raw call where its step says. -/
theorem serves_of_callIn {step : PlanStep} {tags : TagIndex} {named : NamedCall}
    (made : callIn contracts mode step.workflow step tags = .ok named) : named.Serves step := by
  cases holds : step.workflow with
  | none =>
    rw [holds, callIn] at made
    cases resolved : step.clipboardSeeing tags with
    | error e => simp [resolved, Except.map] at made
    | ok clipboard =>
      obtain rfl : _ = named := by simpa [resolved, Except.map] using made
      exact ⟨by simp [PlanStepOf.lacksTarget, holds], fun _ => rfl⟩
  | some inner =>
    rw [holds, callIn] at made
    cases inside : inner.outboundIn contracts mode (inner.workflow.getD step.name) with
    | error e => simp [inside, Except.map] at made
    | ok call =>
      obtain rfl : _ = named := by simpa [inside, Except.map] using made
      exact ⟨by simp [PlanStepOf.lacksTarget, holds, OutboundCall.prepared], by simp [PlanStepOf.lacksTarget, holds]⟩

/-- The calls of some steps are one for each that is sent. -/
theorem serves_of_callsIn {calls : List NamedCall} (made : callsIn contracts mode rest before = .ok calls) :
    List.Forall₂ NamedCall.Serves (rest.filter (·.isSent mode)) calls := by
  induction rest generalizing before calls with
  | nil =>
    rw [callsIn] at made
    obtain rfl := Except.ok.inj made
    exact .nil
  | cons step rest ih =>
    rw [callsIn] at made
    split at made
    case isTrue isSent =>
      split at made
      · cases made
      case h_2 call first =>
        split at made
        · cases made
        case h_2 later =>
          obtain rfl := Except.ok.inj made
          rw [List.filter_cons, if_pos isSent]
          exact .cons (serves_of_callIn first) (ih later)
    case isFalse isOut =>
      rw [List.filter_cons, if_neg isOut]
      exact ih made

/-- The first call without a target is that of the first step that lacks one. -/
theorem targetless?_of_serves {steps : List PlanStep} {calls : List NamedCall}
    (each : List.Forall₂ NamedCall.Serves steps calls) :
    (Encoder.targetless? calls).map NamedCall.step = (steps.find? (·.lacksTarget)).map (·.name) := by
  induction each with
  | nil => rfl
  | @cons step named _ _ serves _ ih =>
    rw [Encoder.targetless?] at ih ⊢
    rw [List.find?_cons, List.find?_cons, serves.isNone_target]
    cases lacks : step.lacksTarget with
    | true => exact congrArg some (serves.name lacks)
    | false => exact ih

/-- Some steps have their calls when each that is sent has its own. -/
theorem exists_callsIn (each : ∀ (place : Nat) (step : PlanStep), rest[place]? = some step →
      step.isSent mode = true →
      ∃ named, callIn contracts mode step.workflow step (tagsSeen mode (before ++ rest.take place)) = .ok named) :
    ∃ calls, callsIn contracts mode rest before = .ok calls := by
  induction rest generalizing before with
  | nil => exact ⟨[], by rw [callsIn]⟩
  | cons step rest ih =>
    obtain ⟨calls, later⟩ : ∃ calls, callsIn contracts mode rest (before ++ [step]) = .ok calls :=
      ih fun place other isThere isSent => by simpa using each (place + 1) other isThere isSent
    rw [callsIn]
    by_cases isSent : step.isSent mode = true
    · obtain ⟨named, first⟩ := each 0 step rfl isSent
      rw [List.take_zero, List.append_nil] at first
      simp only [isSent, ↓reduceIte, first, later, Except.ok.injEq, exists_eq']
    · exact ⟨calls, by rw [if_neg isSent, later]⟩

/-- The first sent step that has no call says why some steps have none. -/
theorem callsIn_error {place : Nat} {step : PlanStep} (isStep : rest[place]? = some step)
    (isSent : step.isSent mode = true)
    (earlier : ∀ index < place, ∀ other : PlanStep, rest[index]? = some other → other.isSent mode = true →
      ∃ named, callIn contracts mode other.workflow other (tagsSeen mode (before ++ rest.take index)) = .ok named)
    (refused : callIn contracts mode step.workflow step (tagsSeen mode (before ++ rest.take place)) = .error e) :
    callsIn contracts mode rest before = .error e := by
  induction rest generalizing before place with
  | nil => simp at isStep
  | cons first rest ih =>
    rw [callsIn]
    cases place with
    | zero =>
      obtain rfl : first = step := by simpa using isStep
      rw [List.take_zero, List.append_nil] at refused
      simp only [isSent, ↓reduceIte, refused]
    | succ place =>
      have later : callsIn contracts mode rest (before ++ [first]) = .error e :=
        ih isStep (fun index isLess other isThere sent => by
          simpa using earlier (index + 1) (by omega) other isThere sent) (by simpa using refused)
      by_cases sent : first.isSent mode = true
      · obtain ⟨named, made⟩ := earlier 0 (by omega) first rfl sent
        rw [List.take_zero, List.append_nil] at made
        simp only [sent, ↓reduceIte, made, later]
      · rw [if_neg sent, later]

end PlanDocument

/-! ## The answer -/

namespace PlanLevel

variable {contracts : Contracts} {mode : RunMode} {level : PlanLevel} {e : WorkflowError}

/-- The outbound call of a level. -/
abbrev outbound (contracts : Contracts) (mode : RunMode) (level : PlanLevel) : Except WorkflowError OutboundCall :=
  level.plan.outboundIn contracts mode level.name

/-- In a plan that can be built, a step has its call when the level below it does. -/
theorem exists_callIn (builds : level.plan.Builds mode) {place : Nat} {step : PlanStep}
    (isStep : level.plan.steps[place]? = some step) (isSent : step.isSent mode = true)
    (below : ∀ inner, step.workflow = some inner →
      ∃ call, (level.inside place step inner).outbound contracts mode = .ok call) :
    ∃ named, PlanDocument.callIn contracts mode step.workflow step
      (PlanDocument.tagsSeen mode ([] ++ level.plan.steps.take place)) = .ok named := by
  obtain ⟨-, calls, -⟩ := builds
  cases holds : step.workflow with
  | none =>
    obtain ⟨clipboard, resolved⟩ := calls place step isStep (PlanStepOf.takesPart_of_isSent isSent) holds
    rw [PlanDocument.callIn, List.nil_append, resolved]
    exact ⟨_, rfl⟩
  | some inner =>
    obtain ⟨call, made⟩ := below inner holds
    have made : inner.outboundIn contracts mode (inner.workflow.getD step.name) = .ok call := made
    rw [PlanDocument.callIn, made]
    exact ⟨_, rfl⟩

/-- In a plan that can be built, so can those that its sent steps hold. -/
theorem builds_inside (builds : level.plan.Builds mode) {place : Nat} {step : PlanStep} {inner : PlanDocument}
    (isStep : level.plan.steps[place]? = some step) (isSent : step.isSent mode = true)
    (holds : step.workflow = some inner) : (level.inside place step inner).plan.Builds mode := by
  obtain ⟨-, -, plans⟩ := builds
  exact plans step (List.mem_of_getElem? isStep) (PlanStepOf.takesPart_of_isSent isSent) inner holds

/-- With all calls there, a level is refused exactly for a target, and only if it is a pipe. -/
theorem outbound_of_calls {calls : List NamedCall} (sends : ∃ step ∈ level.plan.steps, step.isSent mode = true)
    (made : PlanDocument.callsIn contracts mode level.plan.steps [] = .ok calls) :
    ((level.plan.kind = .advancedPipe →
        level.plan.steps.find? (fun step => step.isSent mode && step.lacksTarget) = none) →
      ∃ call, level.outbound contracts mode = .ok call) ∧
    ∀ step, level.plan.kind = .advancedPipe →
      level.plan.steps.find? (fun step => step.isSent mode && step.lacksTarget) = some step →
      level.outbound contracts mode = .error (.missingTarget step.name) := by
  have first := PlanDocument.targetless?_of_serves (PlanDocument.serves_of_callsIn made)
  have kind : (Encoder.ofContracts contracts level.plan.kind).kind = level.plan.kind := by
    cases level.plan.kind <;> rfl
  rw [List.find?_filter] at first
  rw [outbound, PlanDocument.outboundIn_eq, if_neg (not_isEmpty_sent sends), made]
  simp only
  constructor
  · intro found
    have taken : level.plan.kind = .advancedPipe → Encoder.targetless? calls = none := fun isPipe => by
      simpa [found isPipe] using first
    obtain ⟨arguments, encoded⟩ := Encoder.exists_encodeArguments_iff.mpr (kind ▸ taken)
    rw [encoded]
    exact ⟨_, rfl⟩
  · intro step isPipe isFirst
    obtain ⟨named, isNamed, same⟩ : ∃ named, Encoder.targetless? calls = some named ∧ named.step = step.name := by
      simpa [isFirst] using first
    rw [Encoder.encodeArguments_eq_error_iff.mpr ⟨kind.trans isPipe, named, isNamed, congrArg _ same.symm⟩]

/-- A level that is encodable has its outbound call. -/
theorem exists_outbound_of_encodable (builds : level.plan.Builds mode) (encodable : level.Encodable mode) :
    ∃ call, level.outbound contracts mode = .ok call := by
  induction level using PlanLevel.induction with
  | level level ih =>
    obtain ⟨complete, nested⟩ := encodable_iff.mp encodable
    obtain ⟨calls, made⟩ : ∃ calls, PlanDocument.callsIn contracts mode level.plan.steps [] = .ok calls :=
      PlanDocument.exists_callsIn fun place step isStep isSent =>
        exists_callIn builds isStep isSent fun inner holds =>
          ih place step inner isStep holds (builds_inside builds isStep isSent holds)
            (nested place step inner isStep isSent holds)
    exact (outbound_of_calls complete.sends made).1 fun isPipe =>
      find?_lacksTarget_eq_none_iff.mpr (complete.targets isPipe)

/-- In a plan that can be built, a step has its call when the level below it is encodable. -/
theorem exists_callIn_of_encodable (builds : level.plan.Builds mode) {place : Nat} {step : PlanStep}
    (isStep : level.plan.steps[place]? = some step) (isSent : step.isSent mode = true)
    (below : ∀ inner, step.workflow = some inner → (level.inside place step inner).Encodable mode) :
    ∃ named, PlanDocument.callIn contracts mode step.workflow step
      (PlanDocument.tagsSeen mode ([] ++ level.plan.steps.take place)) = .ok named :=
  exists_callIn builds isStep isSent fun inner holds =>
    exists_outbound_of_encodable (builds_inside builds isStep isSent holds) (below inner holds)

/-- What a level lacks is the error of its outbound call. -/
theorem outbound_of_lacks (builds : level.plan.Builds mode) (lacks : level.Lacks mode e) :
    level.outbound contracts mode = .error e := by
  induction lacks with
  | @calls level none =>
    rw [outbound, PlanDocument.outboundIn_eq, if_pos (isEmpty_sent_iff.mpr none)]
  | @inside level place step inner e isStep isSent holds _ first ih =>
    have sends : ∃ step ∈ level.plan.steps, step.isSent mode = true := ⟨step, List.mem_of_getElem? isStep, isSent⟩
    have refused : PlanDocument.callIn contracts mode step.workflow step
        (PlanDocument.tagsSeen mode ([] ++ level.plan.steps.take place)) = .error e := by
      have below : inner.outboundIn contracts mode (inner.workflow.getD step.name) = .error e :=
        ih (builds_inside builds isStep isSent holds)
      rw [holds, PlanDocument.callIn, below]
      rfl
    have stopped := PlanDocument.callsIn_error isStep isSent (fun earlier isLess other isThere sent =>
      exists_callIn_of_encodable builds isThere sent fun plan => first earlier isLess other plan isThere sent) refused
    rw [outbound, PlanDocument.outboundIn_eq, if_neg (not_isEmpty_sent sends), stopped]
  | @target level step isPipe isFirst nested =>
    obtain ⟨calls, made⟩ : ∃ calls, PlanDocument.callsIn contracts mode level.plan.steps [] = .ok calls :=
      PlanDocument.exists_callsIn fun place other isThere sent =>
        exists_callIn_of_encodable builds isThere sent fun plan => nested place other plan isThere sent
    have isTargetless := List.find?_some isFirst
    have isSent : step.isSent mode = true := (Bool.and_eq_true_iff.mp isTargetless).1
    exact (outbound_of_calls ⟨step, List.mem_of_find?_eq_some isFirst, isSent⟩ made).2 step isPipe isFirst

/-- The outbound call of a level that can be built is there if the level is encodable, and otherwise there is the
error that says what it lacks. -/
theorem outbound_iff (contracts : Contracts) (builds : level.plan.Builds mode) :
    ((∃ call, level.outbound contracts mode = .ok call) ↔ level.Encodable mode) ∧
      ∀ e, level.outbound contracts mode = .error e ↔ level.Lacks mode e := by
  refine ⟨⟨?_, exists_outbound_of_encodable builds⟩, fun e => ⟨?_, outbound_of_lacks builds⟩⟩
  · rintro ⟨call, made⟩
    refine (encodable_or_lacks mode level).resolve_right ?_
    rintro ⟨e, lacks⟩
    exact absurd (made.symm.trans (outbound_of_lacks builds lacks)) (by simp)
  · intro refused
    rcases encodable_or_lacks mode level with encodable | ⟨e', lacks⟩
    · obtain ⟨call, made⟩ : ∃ call, level.outbound contracts mode = .ok call :=
        exists_outbound_of_encodable builds encodable
      exact absurd (made.symm.trans refused) (by simp)
    · obtain rfl := Except.error.inj (refused.symm.trans (outbound_of_lacks builds lacks))
      exact lacks

/-- After a build of an accepted plan, in any mode, `finalize` has a call exactly if all that is sent along with
the plan is complete, and fails otherwise with what is lacking first. The error names the level or the step as it
is, without a word of the levels around it. However often `finalize` is called, nothing changes. -/
theorem finalize_error_iff_lacks {plan : PlanDocument} {cell : CellId} {workflow : Workflow σ}
    (accepted : plan.toWorkflow contracts cell = .ok workflow) {amount : Uint256} {data : RunData}
    {world after : World σ} {out : Uint256} (ok : workflow.build amount mode data world = (.ok out, after)) :
    ((∃ call, workflow.finalize after.cells = .ok call) ↔ (root plan cell).Encodable mode) ∧
      (∀ e, workflow.finalize after.cells = .error e ↔ (root plan cell).Lacks mode e) ∧
      (∀ e, workflow.finalize after.cells = .error e → (root plan cell).Blames mode e) ∧
      ∀ times, performAll workflow (List.replicate times .finalize) after = after := by
  have accepted : (root plan cell).workflow contracts = .ok workflow := accepted
  obtain ⟨built, -, ok⟩ := Workflow.build_ok ok
  have builds : (root plan cell).plan.Builds mode := builds_of_buildFor accepted ok
  have finalized : workflow.finalize after.cells = (root plan cell).outbound contracts mode :=
    finalize_eq_outboundIn accepted (stands_of_buildFor accepted ok)
  obtain ⟨encoded, refused⟩ := outbound_iff contracts builds
  rw [finalized]
  refine ⟨encoded, refused, fun e failed => ((refused e).mp failed).blames, fun times => ?_⟩
  induction times with
  | zero => rfl
  | succ times ih => exact ih

/-- A pipe with a raw call that has no target, and behind it two nested plans that send nothing: one whose step is
local, and one inside the plan of a step that is left to the modes with the full transaction. -/
def hollowPlan : PlanDocument :=
  let call (name : String) : PlanStep := ⟨name, some [1], none, none, false, false, false, none, none, none, none⟩
  let nested (name : String) (steps : List PlanStep) : PlanStep :=
    { call name with callData := none, workflow := some (.mk none .farm steps) }
  .mk (some "route") .advancedPipe
    [call "orphan", { nested "spare" [] with onlyLocal := true },
      { nested "outer" [nested "hollow" [{ call "note" with onlyLocal := true }]] with onlyExecute := true }]

/-- The nested plan that sends nothing comes before the missing target, unless its step does not take part. -/
theorem hollowPlan_refused :
    ∃ (workflow : Workflow Unit) (simulated executed : World Unit),
      hollowPlan.toWorkflow default [] = .ok workflow ∧
      workflow.build 7 .forward .empty (.start ()) = (.ok 7, simulated) ∧
      workflow.finalize simulated.cells = .error (.missingTarget "orphan") ∧
      workflow.build 7 .execute .empty simulated = (.ok 7, executed) ∧
      workflow.finalize executed.cells = .error (.emptySequence "hollow") := by
  obtain ⟨workflow, simulated, executed, accepted, forward, execute⟩ :
      ∃ (workflow : Workflow Unit) (simulated executed : World Unit),
        hollowPlan.toWorkflow default [] = .ok workflow ∧
        workflow.build 7 .forward .empty (.start ()) = (.ok 7, simulated) ∧
        workflow.build 7 .execute .empty simulated = (.ok 7, executed) := ⟨_, _, _, rfl, rfl, rfl⟩
  refine ⟨workflow, simulated, executed, accepted, forward, ?_, execute, ?_⟩
  · obtain ⟨step, isFirst, name⟩ : ∃ step,
        hollowPlan.steps.find? (fun step => step.isSent .forward && step.lacksTarget) = some step ∧
          step.name = "orphan" := ⟨_, rfl, rfl⟩
    refine ((finalize_error_iff_lacks accepted forward).2.1 _).mpr (name ▸ .target rfl isFirst ?_)
    rintro (_ | _ | _ | place) other plan isThere isSent holds <;> cases isThere <;> cases isSent
    cases holds
  · have isOuter : hollowPlan.steps[2]? = some _ := rfl
    refine ((finalize_error_iff_lacks accepted execute).2.1 _).mpr
      (.inside isOuter rfl rfl (@Lacks.inside _ _ 0 _ _ _ rfl rfl rfl (.calls (by decide)) (by simp)) ?_)
    rintro (_ | _ | earlier) isLess other plan isThere isSent holds
    · cases isThere
      cases holds
    · cases isThere
      cases isSent
    · omega

end PlanLevel

end CallWeave
