import CallWeave.Workflow.Submit
import Mathlib.Data.List.Forall2

/-!
# The calls of a build

What `namedCalls` answers, as a relation between steps and calls (`namedCalls_ok_iff`), and on what
it depends: asked twice, it answers alike exactly if every step has the same call both times, or if
it fails both times with the same error (`namedCalls_eq_iff`).
-/

namespace CallWeave

/-- A prepared call belongs to a step: it has the step's name and the step's call. -/
def BuiltStep.Prepares (nested : NestedCalls) (step : BuiltStep) (named : NamedCall) : Prop :=
  named.step = step.name ∧ step.call nested = .ok named.call

variable {nested other : NestedCalls}

/-- The calls of some steps are prepared exactly if every step has its call. -/
theorem namedCalls_ok_iff {steps : List BuiltStep} {calls : List NamedCall} :
    namedCalls nested steps = .ok calls ↔ List.Forall₂ (BuiltStep.Prepares nested) steps calls := by
  induction steps generalizing calls with
  | nil => cases calls <;> simp [namedCalls]
  | cons step rest ih =>
    rw [List.forall₂_cons_left_iff]
    simp only [namedCalls]
    cases called : step.call nested with
    | error e => simp [BuiltStep.Prepares, called]
    | ok call =>
      cases more : namedCalls nested rest with
      | error e =>
        simp only [reduceCtorEq, false_iff, not_exists]
        rintro named others ⟨-, prepared, -⟩
        cases more.symm.trans (ih.mpr prepared)
      | ok others =>
        constructor
        · intro same
          obtain rfl := Except.ok.inj same
          exact ⟨⟨step.name, call⟩, others, ⟨rfl, called⟩, ih.mp more, rfl⟩
        · rintro ⟨⟨name, call'⟩, others', ⟨named, called'⟩, prepared, rfl⟩
          obtain rfl := Except.ok.inj (called.symm.trans called')
          obtain rfl := Except.ok.inj (more.symm.trans (ih.mpr prepared))
          exact congrArg _ (congrArg (⟨·, call⟩ :: others) named.symm)

/-- The calls of some steps depend on the calls of the steps, one by one. -/
theorem namedCalls_congr {steps : List BuiltStep} (same : ∀ step ∈ steps, step.call nested = step.call other) :
    namedCalls nested steps = namedCalls other steps := by
  induction steps with
  | nil => rfl
  | cons step rest ih =>
    have ih := ih fun later isIn => same later (List.mem_cons_of_mem _ isIn)
    rw [namedCalls, namedCalls, same step List.mem_cons_self, ih]

/-- Where two answers prepare the same calls, every step has the same call in both. -/
theorem call_eq_of_forall₂ {steps : List BuiltStep} {calls : List NamedCall}
    (one : List.Forall₂ (BuiltStep.Prepares nested) steps calls)
    (two : List.Forall₂ (BuiltStep.Prepares other) steps calls) :
    ∀ step ∈ steps, step.call nested = step.call other := by
  induction one with
  | nil => simp
  | cons first rest ih =>
    obtain ⟨first', rest'⟩ := List.forall₂_cons.mp two
    intro step isIn
    rcases List.mem_cons.mp isIn with rfl | later
    · rw [first.2, first'.2]
    · exact ih rest' step later

/-- The calls of some steps are the same in two answers exactly if the call of every step is, or if
both fail with one error. -/
theorem namedCalls_eq_iff {steps : List BuiltStep} :
    namedCalls nested steps = namedCalls other steps ↔
      (∀ step ∈ steps, step.call nested = step.call other) ∨
        ∃ e, namedCalls nested steps = .error e ∧ namedCalls other steps = .error e := by
  constructor
  · intro same
    cases answer : namedCalls nested steps with
    | error e => exact .inr ⟨e, rfl, same ▸ answer⟩
    | ok calls =>
      rw [answer] at same
      exact .inl (call_eq_of_forall₂ (namedCalls_ok_iff.mp answer) (namedCalls_ok_iff.mp same.symm))
  · rintro (same | ⟨e, one, two⟩)
    · exact namedCalls_congr same
    · rw [one, two]

/-- A build has prepared calls exactly if it emits a step and every emitted step has its call. -/
theorem Build.calls_ok_iff {build : Build} {name : String} {calls : List NamedCall} :
    build.calls name nested = .ok calls ↔
      build.emitted ≠ [] ∧ List.Forall₂ (BuiltStep.Prepares nested) build.emittedSteps calls := by
  simp only [Build.calls]
  split
  case isTrue isEmpty => simp [List.isEmpty_iff.mp isEmpty]
  case isFalse some =>
    rw [namedCalls_ok_iff]
    simp [List.isEmpty_iff] at some
    simp [some]

end CallWeave
