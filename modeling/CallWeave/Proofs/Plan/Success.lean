import CallWeave.Proofs.Plan.Repetition

/-!
# Plans that are built

Whether a build of a plan succeeds is a matter of the plan and the mode: no tag is repeated, every reference is
resolved, and so it is in the plans of all steps that take part (`PlanDocument.Builds`). The amount, the run data,
the names and what was built before have no part in it (`PlanLevel.buildFor_ok_iff`).
-/

namespace CallWeave

variable {σ : Type}

/-- A plan can be built in a mode: no two sent steps have one tag, the clipboard of every raw step that takes part
is resolved by the tags that it sees, and the plans inside can be built. -/
inductive PlanDocument.Builds (mode : RunMode) : PlanDocument → Prop
  | intro {plan : PlanDocument} (apart : ((tagsIn mode plan.steps).map Prod.fst).Nodup)
      (calls : ∀ (place : Nat) (step : PlanStep), plan.steps[place]? = some step → step.takesPart mode = true →
        step.workflow = none →
        ∃ clipboard, step.clipboardSeeing (tagsSeen mode (plan.steps.take place)) = .ok clipboard)
      (plans : ∀ step ∈ plan.steps, step.takesPart mode = true → ∀ inner ∈ step.workflow, Builds mode inner) :
      Builds mode plan

namespace PlanLevel

variable {contracts : Contracts} {level : PlanLevel} {workflow : Workflow σ} {purpose : Purpose} {amount : Uint256}
  {world after : World σ}

/-- A plan that was built can be built. -/
theorem builds_of_buildFor {build : Build} (accepted : level.workflow contracts = .ok workflow)
    (built : workflow.buildFor purpose amount world = (.ok build, after)) : level.plan.Builds purpose.mode := by
  induction level using PlanLevel.induction generalizing workflow amount world after build with
  | level level ih =>
    obtain ⟨turns, ran⟩ := workflow.buildFor_ok built
    have kept := kept_of_ran accepted ran
    refine .intro (kept.tags ▸ kept.tags_nodup) ?_ ?_
    · intro place step isStep takesPart flat
      obtain ⟨turn, -, turnOf⟩ := exists_of_forall₂_zipIdx (turnsOf accepted ran) isStep
      obtain ⟨made, -, makes⟩ := turnOf.made takesPart
      cases makes with
      | call _ _ _ resolved => exact ⟨_, resolved⟩
      | plan _ holds => simp [flat] at holds
    · intro step isIn takesPart inner holds
      obtain ⟨place, isStep⟩ := List.mem_iff_getElem?.mp isIn
      obtain ⟨below, turn, simulated, accepted, -, built⟩ := built_inside accepted ran isStep takesPart holds
      exact ih place step inner isStep holds accepted built

/-- An entry whose generator runs behind some turns is that of a step, and sees the tags that the step sees. -/
theorem exists_step_seeing (described : level.Describes contracts workflow) {turns : List (Turn σ)}
    {entry : Entry (Generator σ)} {out : Uint256} {last : World σ} (isEntry : entry ∈ workflow.entries)
    (order : purpose.mode.isReversed = false → turns.map Turn.entry ++ [entry] <+: workflow.entries)
    (walked : Walked purpose workflow.name [] amount world turns out last) :
    ∃ place step, level.plan.steps[place]? = some step ∧ level.EntryOf contracts (step, place) entry ∧
      (purpose.contextAfter workflow.name (recordsOf turns)).tags =
        PlanDocument.tagsSeen purpose.mode (level.plan.steps.take place) := by
  cases direction : purpose.mode.isReversed with
  | true =>
    -- backward no tag is seen, wherever the step stands
    obtain ⟨place, step, -, isStep, entryOf⟩ := described.exists_step isEntry
    exact ⟨place, step, isStep, entryOf, by simp [Purpose.contextAfter, PlanDocument.tagsSeen, direction]⟩
  | false =>
    obtain ⟨behind, order⟩ := order direction
    have isThere : workflow.entries[turns.length]? = some entry := by simp [← order]
    obtain ⟨step, isStep, entryOf⟩ := described.entry_at isThere
    have first : turns.map Turn.entry <+: workflow.entries :=
      ⟨entry :: behind, by rw [← order, List.append_assoc]; rfl⟩
    have follow := follow_of_prefix described first walked.context_mode
    have tags := tagsOf_recordsOf follow walked.taken
    exact ⟨turns.length, step, isStep, entryOf,
      by simp [Purpose.contextAfter, PlanDocument.tagsSeen, direction, tags]⟩

/-- A plan whose build failed cannot be built. -/
theorem not_builds_of_buildFor {e : WorkflowError} (accepted : level.workflow contracts = .ok workflow)
    (failed : workflow.buildFor purpose amount world = (.error e, after)) : ¬ level.plan.Builds purpose.mode := by
  induction level using PlanLevel.induction generalizing workflow amount world after e with
  | level level ih =>
    have described := describes accepted
    rintro ⟨apart, calls, plans⟩
    cases workflow.buildFor_error failed with
    | tag entries taken mode emits tagged again =>
      cases refuses_of_tag described entries taken mode emits tagged again with
      | tag isStep isSent tagged again =>
        exact nodup_tagsIn_iff.mp apart _ (repeats_of_again isStep isSent tagged again)
    | @run turns entry _ out _ last after cause isEntry _ order walked isIn ran =>
      obtain ⟨place, step, isStep, ⟨options, becomes⟩, tags⟩ := exists_step_seeing described isEntry order walked
      have takesPart : step.takesPart purpose.mode = true := by
        rwa [show _ = step.options from options, PlanStepOf.leavesOut_options, purpose.contextAfter_mode,
          Bool.not_eq_false'] at isIn
      -- the generator failed, but a call that is resolved does not, and a plan that can be built does not either
      generalize entry.generator = generator at becomes ran
      cases becomes with
      | call _ flat made =>
        obtain ⟨clipboard, resolved⟩ := calls place step isStep takesPart flat
        rw [PlanStepOf.run_rawCall made, tags, resolved] at ran
        simp [Except.map] at ran
      | @plan inner below _ holds accepted =>
        have isIn : step ∈ level.plan.steps := List.mem_of_getElem? isStep
        rw [below.run_asGenerator] at ran
        split at ran
        case h_1 built => exact ih place step inner isStep holds accepted built (plans step isIn takesPart inner holds)
        case h_2 => simp at ran

/-- Whether a build of an accepted plan succeeds is said by the plan and the mode. -/
theorem buildFor_ok_iff (accepted : level.workflow contracts = .ok workflow) (purpose : Purpose) (amount : Uint256)
    (world : World σ) :
    (∃ build, (workflow.buildFor purpose amount world).1 = .ok build) ↔ level.plan.Builds purpose.mode := by
  cases outcome : workflow.buildFor purpose amount world with | mk answer after =>
  cases answer with
  | ok build => simpa using builds_of_buildFor accepted outcome
  | error e => simpa using not_builds_of_buildFor accepted outcome

end PlanLevel

end CallWeave
