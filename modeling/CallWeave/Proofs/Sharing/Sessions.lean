import CallWeave.Proofs.Plan.Submission
import CallWeave.Proofs.Sharing.Copy
import CallWeave.Session.Basic
import Mathlib.Logic.Relation

/-!
# The cells of a session

A session numbers the cells that it gives to the workflows it makes, copies and reads from plans. What a plan nests is
kept below the cell of the plan, under the same number. So every cell in use has a number that was given out
(`Session.Allotted`), which each step of a session keeps (`Session.Goes.allotted`), and the next cell is always one that
no workflow of the session holds and that has no build in it (`Session.copy_fresh`). It is such a cell that isolates a
copy from its original.
-/

namespace CallWeave

/-! ## Steps of a session -/

/-- What a workflow can be asked to do in a world. -/
inductive Workflow.Acts {σ : Type} (workflow : Workflow σ) : World σ → World σ → Prop
  | perform (operation : Operation) (world : World σ) : Acts workflow world (operation.perform workflow world)
  | execute (amount : Uint256) (data : RunData) (world : World σ) :
      Acts workflow world (workflow.execute amount data world).2
  | callStatic (amount : Uint256) (data : RunData) (transport : Transport σ) (sender : Option Address)
      (world : World σ) : Acts workflow world (workflow.callStatic amount data transport sender world).2
  | estimateCost (amount : Uint256) (data : RunData) (transport : Transport σ) (sender : Option Address)
      (world : World σ) : Acts workflow world (workflow.estimateCost amount data transport sender world).2

/-- What can be added to a workflow in a session: a generator that answers by itself, or a workflow of the session. -/
inductive Session.Offers (session : Session) : Generator Stage → Prop
  | leaf (name : String) (run : StepRun Stage) : Offers session (.leaf name run)
  | workflow {id : String} {workflow : Workflow Stage} (isThere : session.workflow? id = some workflow) :
      Offers session workflow.asGenerator

/-- One step of a session. -/
inductive Session.Goes (session : Session) : Session → Prop
  | create (id name : String) (encoder : Encoder) : Goes session (session.create id name encoder)
  | copy (id : String) {source : String} {workflow : Workflow Stage}
      (isThere : session.workflow? source = some workflow) : Goes session (session.copy id workflow)
  | plan (id : String) {document : PlanDocument} {contracts : Contracts} {workflow : Workflow Stage}
      (accepted : document.toWorkflow contracts session.nextCell = .ok workflow) :
      Goes session (session.define id workflow)
  | add {id : String} {workflow : Workflow Stage} (isThere : session.workflow? id = some workflow)
      {input : GeneratorGroup Stage} (offered : ∀ generator ∈ input.flatten, session.Offers generator)
      (options : StepOptions) : Goes session (session.put id (workflow.add input options))
  | act {id : String} {workflow : Workflow Stage} (isThere : session.workflow? id = some workflow)
      {world : World Stage} (acts : workflow.Acts session.world world) : Goes session (session.after world)

/-- A session can come to this state. -/
def Session.Reached (session : Session) : Prop :=
  ∃ stage, Relation.ReflTransGen Session.Goes (.start stage) session

/-- Whatever a workflow is asked to do changes no cell outside of its family. -/
theorem Workflow.Acts.sameOutside {σ : Type} {workflow : Workflow σ} {before after : World σ}
    (acts : workflow.Acts before after) : World.SameOutside (workflow.family.map Workflow.cell) before after := by
  have outbound (amount : Uint256) (mode : RunMode) (data : RunData) :
      World.SameOutside (workflow.family.map Workflow.cell) before (workflow.outbound amount mode data before).2 := by
    rw [workflow.outbound_snd]
    exact workflow.buildFor_sameOutside ⟨mode, data⟩ amount before
  cases acts with
  | perform operation => exact operation.perform_sameOutside workflow before
  | execute amount data => exact outbound amount .execute data
  | callStatic amount data transport sender =>
    obtain ⟨-, cells⟩ := workflow.callStatic_sends amount data transport sender before
    intro cell isOutside
    rw [cells]
    exact outbound amount .readOnlyCall data cell isOutside
  | estimateCost amount data transport sender =>
    obtain ⟨-, cells⟩ := workflow.estimateCost_sends amount data transport sender before
    intro cell isOutside
    rw [cells]
    exact outbound amount .estimateCost data cell isOutside

/-! ## Cells that were given out -/

/-- One of the first `serial` cells of a session, or a cell below one of them. -/
def CellId.GivenBy (serial : Nat) (cell : CellId) : Prop := ∃ number < serial, [number] <:+ cell

theorem CellId.GivenBy.mono {serial later : Nat} {cell : CellId} (given : GivenBy serial cell)
    (isEarlier : serial ≤ later) : GivenBy later cell := by
  obtain ⟨number, isGiven, isEnd⟩ := given
  exact ⟨number, Nat.lt_of_lt_of_le isGiven isEarlier, isEnd⟩

theorem CellId.givenBy_succ {serial : Nat} {cell : CellId} (isEnd : [serial] <:+ cell) : GivenBy (serial + 1) cell :=
  ⟨serial, serial.lt_succ_self, isEnd⟩

/-- The next cell was not given out. -/
theorem Session.not_givenBy_nextCell (session : Session) : ¬CellId.GivenBy session.serial session.nextCell := by
  rintro ⟨number, isGiven, isEnd⟩
  obtain rfl : number = session.serial := by simpa [nextCell] using isEnd.eq_of_length rfl
  exact Nat.lt_irrefl _ isGiven

namespace Session

/-- Every cell in use was given out: those of the workflows and of what they hold, and those with a build. -/
structure Allotted (session : Session) : Prop where
  held : ∀ id workflow, (id, workflow) ∈ session.workflows →
    ∀ member ∈ workflow.family, CellId.GivenBy session.serial member.cell
  built : ∀ cell, session.cells cell ≠ none → CellId.GivenBy session.serial cell

variable {session next : Session} {id source : String} {workflow : Workflow Stage}

theorem mem_of_workflow? (isThere : session.workflow? id = some workflow) : (id, workflow) ∈ session.workflows := by
  obtain ⟨before, behind, split, -⟩ := List.lookup_eq_some_iff.mp isThere
  simp [split]

theorem Allotted.held_of_workflow? (allotted : session.Allotted) (isThere : session.workflow? id = some workflow) :
    ∀ member ∈ workflow.family, CellId.GivenBy session.serial member.cell :=
  allotted.held id workflow (mem_of_workflow? isThere)

theorem allotted_start (stage : Stage) : (start stage).Allotted :=
  ⟨by simp [start], fun _ isBuilt => absurd rfl isBuilt⟩

/-- A workflow whose cells were given out may be put under a name. -/
theorem Allotted.put (allotted : session.Allotted)
    (given : ∀ member ∈ workflow.family, CellId.GivenBy session.serial member.cell) :
    (session.put id workflow).Allotted := by
  refine ⟨fun other member isIn => ?_, allotted.built⟩
  rcases List.mem_cons.mp isIn with same | isOld
  · obtain ⟨rfl, rfl⟩ := Prod.mk.inj same
    exact given
  · exact allotted.held other member isOld

/-- A workflow with the next cell, or cells below it, may be defined. -/
theorem Allotted.define (allotted : session.Allotted)
    (given : ∀ member ∈ workflow.family,
      session.nextCell <:+ member.cell ∨ CellId.GivenBy session.serial member.cell) :
    (session.define id workflow).Allotted := by
  have isEarlier : session.serial ≤ session.serial + 1 := Nat.le_succ _
  have later : ({ session with serial := session.serial + 1 } : Session).Allotted :=
    ⟨fun other held isIn member isMember => (allotted.held other held isIn member isMember).mono isEarlier,
      fun cell isBuilt => (allotted.built cell isBuilt).mono isEarlier⟩
  refine later.put fun member isMember => ?_
  rcases given member isMember with isBelow | isOld
  · exact CellId.givenBy_succ isBelow
  · exact isOld.mono isEarlier

/-- What a session offers has cells that were given out. -/
theorem Offers.given {generator : Generator Stage} (offered : session.Offers generator) (allotted : session.Allotted) :
    ∀ member ∈ generator.workflows, CellId.GivenBy session.serial member.cell := by
  cases offered with
  | leaf => simp [Generator.workflows]
  | workflow isThere =>
    rw [Workflow.workflows_asGenerator]
    exact allotted.held_of_workflow? isThere

/-- Every step of a session keeps to cells that were given out. -/
theorem Goes.allotted (goes : session.Goes next) (allotted : session.Allotted) : next.Allotted := by
  cases goes with
  | create id name encoder =>
    refine allotted.define fun member isMember => .inl ?_
    obtain rfl : member = .new session.nextCell name encoder := by
      simpa [Workflow.family, Workflow.nested, Workflow.new, workflowsIn] using isMember
    exact List.suffix_rfl
  | copy id isThere =>
    refine allotted.define fun member isMember => ?_
    rcases List.mem_cons.mp isMember with rfl | isNested
    · exact .inl List.suffix_rfl
    · exact .inr (allotted.held_of_workflow? isThere member (List.mem_cons_of_mem _ isNested))
  | @plan id document contracts workflow accepted =>
    have accepted : (PlanLevel.root document session.nextCell).workflow contracts = .ok workflow := accepted
    exact allotted.define fun member isMember => .inl (PlanLevel.suffix_of_mem_family accepted member isMember)
  | @add id workflow isThere input offered options =>
    have given := allotted.held_of_workflow? isThere
    refine allotted.put fun member isMember => ?_
    rcases List.mem_cons.mp isMember with rfl | isNested
    · exact given workflow List.mem_cons_self
    · -- what the workflow holds now, it held before, or a generator that was added does
      obtain ⟨entry, isEntry, isIn⟩ := mem_workflowsIn.mp isNested
      rcases List.mem_append.mp isEntry with isOld | isNew
      · exact given member (List.mem_cons_of_mem _ (Workflow.mem_nested_of_mem_entries isOld isIn))
      · obtain ⟨generator, isAdded, rfl⟩ := List.mem_map.mp isNew
        exact (offered generator isAdded).given allotted member isIn
  | @act id workflow isThere world acts =>
    refine ⟨allotted.held, fun cell isBuilt => ?_⟩
    by_cases isIn : cell ∈ workflow.family.map Workflow.cell
    · obtain ⟨member, isMember, rfl⟩ := List.mem_map.mp isIn
      exact allotted.held_of_workflow? isThere member isMember
    · refine allotted.built cell ?_
      rwa [Session.cells, ← acts.sameOutside cell isIn]

theorem Reached.allotted (reached : session.Reached) : session.Allotted := by
  obtain ⟨stage, run⟩ := reached
  induction run with
  | refl => exact allotted_start stage
  | tail _ goes ih => exact goes.allotted ih

/-- A copy that is made in a session gets a cell that its original does not hold, and in which nothing is built. -/
theorem copy_fresh (reached : session.Reached) (isThere : session.workflow? source = some workflow) (id : String) :
    (session.copy id workflow).workflow? id = some (workflow.copy session.nextCell) ∧
      session.nextCell ∉ workflow.family.map Workflow.cell ∧
      (session.copy id workflow).cells session.nextCell = none := by
  have allotted := reached.allotted
  refine ⟨by simp [copy, define, put, workflow?], fun isIn => ?_, ?_⟩
  · obtain ⟨member, isMember, same⟩ := List.mem_map.mp isIn
    exact session.not_givenBy_nextCell (same ▸ allotted.held_of_workflow? isThere member isMember)
  · by_contra isBuilt
    exact session.not_givenBy_nextCell (allotted.built _ isBuilt)

end Session

end CallWeave
