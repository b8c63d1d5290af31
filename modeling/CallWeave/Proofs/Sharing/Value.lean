import CallWeave.Generator.RawCall
import CallWeave.Proofs.Sharing.Frame
import CallWeave.Proofs.Sharing.Locality

/-!
# The value of a build

Every built step adds its value to that of the build, and a nested workflow adds the value of its
own build. All of these are words, and a sum of words wraps around at `2 ^ 256`. So the value of a
build that succeeds is the total of its steps exactly if the total is less than `2 ^ 256`, and
otherwise it is less than the total. The same is true of the total at any depth (`Spends`), because
wrapping around inside changes nothing modulo `2 ^ 256` (`Spends.ofNat_eq`). The call that is sent
carries the value as it is.
-/

namespace CallWeave

variable {σ : Type}

/-- What some turns need when nothing wraps around. The turn of a nested workflow needs what the
turns of its own build do. -/
inductive Spends (purpose : Purpose) : List (Turn σ) → Nat → Prop
  | done : Spends purpose [] 0
  | leftOut {turn : Turn σ} {turns : List (Turn σ)} {total : Nat} (isOut : turn.step? = none)
      (rest : Spends purpose turns total) : Spends purpose (turn :: turns) total
  | own {turn : Turn σ} {turns : List (Turn σ)} {total : Nat} {step : Step}
      (made : turn.step? = some (.own step)) (rest : Spends purpose turns total) :
      Spends purpose (turn :: turns) ((BuiltStep.own step).cost + total)
  | nested {turn : Turn σ} {turns inside : List (Turn σ)} {total spent : Nat} {inner : Workflow σ}
      {build : Build} (isInner : turn.entry.generator = inner.asGenerator)
      (ran : inner.Ran purpose turn.amount turn.before inside build turn.after)
      (made : turn.step? = some (.nested inner.cell inner.name build.amountOut build.value))
      (within : Spends purpose inside spent) (rest : Spends purpose turns total) :
      Spends purpose (turn :: turns) (spent + total)

/-- A value stands for a total wherever it is read: as the value of the current build, and in the
outbound call. -/
structure Workflow.Valued (workflow : Workflow σ) (cells : Cells) (total : Nat) : Prop where
  value : workflow.value cells = BitVec.ofNat 256 total
  exact_iff : (workflow.value cells).toNat = total ↔ total < 2 ^ 256
  /-- A total that does not fit becomes a smaller value. -/
  lt_of_le : 2 ^ 256 ≤ total → (workflow.value cells).toNat < total
  attached : ∀ call, workflow.finalize cells = .ok call → call.value = BitVec.ofNat 256 total
  argument : ∀ call, workflow.finalize cells = .ok call → workflow.encoder.kind = .advancedPipe →
    ∃ parts, call.arguments = Abi.params [Abi.arrayPart parts, Abi.uintPart (BitVec.ofNat 256 total)]

/-! ## Totals at any depth -/

/-- Turns that can each be put in front of others have a total. -/
theorem exists_spends_of_cons {purpose : Purpose} {turns : List (Turn σ)}
    (each : ∀ turn ∈ turns, ∀ rest total, Spends purpose rest total →
      ∃ more, Spends purpose (turn :: rest) more) :
    ∃ total, Spends purpose turns total := by
  induction turns with
  | nil => exact ⟨0, .done⟩
  | cons turn rest ih =>
    obtain ⟨total, spent⟩ := ih fun other isIn => each other (List.mem_cons_of_mem _ isIn)
    exact each turn List.mem_cons_self rest total spent

/-- Whatever a turn makes, it has a total. -/
theorem Turn.Taken.spends {purpose : Purpose} (generator : Generator σ) :
    ∀ turn : Turn σ, turn.entry.generator = generator → turn.Taken purpose →
      ∀ rest total, Spends purpose rest total → ∃ more, Spends purpose (turn :: rest) more := by
  induction generator using Generator.induction with
  | leaf name run =>
    intro turn isLeaf taken rest total spent
    cases taken with
    | leftOut => exact ⟨total, .leftOut rfl spent⟩
    | @made entry amount context before after step _ ran =>
      rw [show entry.generator = .leaf name run from isLeaf, Generator.run] at ran
      split at ran
      · cases ran
      case h_2 output outside _ =>
        obtain ⟨rfl, -⟩ : BuiltStep.own (output.toStep name amount) = step ∧ _ := by simpa using ran
        exact ⟨_, .own rfl spent⟩
  | nested cell name encoder entries ih =>
    intro turn isInner taken rest total spent
    let inner : Workflow σ := ⟨cell, name, encoder, entries⟩
    cases made : turn.step? with
    | none => exact ⟨total, .leftOut made spent⟩
    | some step =>
      have isInner : turn.entry.generator = inner.asGenerator := isInner
      obtain ⟨build, built, rfl⟩ := taken.simulated isInner made
      obtain ⟨inside, ran⟩ := inner.buildFor_ok built
      obtain ⟨within, spentInside⟩ := exists_spends_of_cons fun turn isIn => by
        have isEntry : turn.entry ∈ inner.entries := ran.entries ▸ List.mem_map_of_mem isIn
        exact ih turn.entry isEntry turn rfl (ran.taken turn isIn)
      exact ⟨_, .nested isInner ran made spentInside spent⟩

/-- The turns of a build have a total at any depth. -/
theorem Workflow.Ran.exists_spends {workflow : Workflow σ} {purpose : Purpose} {amount : Uint256}
    {world after : World σ} {turns : List (Turn σ)} {build : Build}
    (ran : workflow.Ran purpose amount world turns build after) : ∃ total, Spends purpose turns total :=
  exists_spends_of_cons fun turn isIn => Turn.Taken.spends _ turn rfl (ran.taken turn isIn)

/-- Modulo `2 ^ 256`, the total at any depth is that of the steps themselves. -/
theorem Spends.ofNat_eq {purpose : Purpose} {turns : List (Turn σ)} {total : Nat}
    (spends : Spends purpose turns total) :
    BitVec.ofNat 256 (totalOf (recordsOf turns)) = BitVec.ofNat 256 total := by
  induction spends with
  | done => rfl
  | @leftOut turn turns total isOut _ ih => rwa [recordsOf_cons, Turn.record?, isOut]
  | @own turn turns total step made _ ih =>
    rw [recordsOf_cons, totalOf_append, BitVec.ofNat_add, BitVec.ofNat_add, ih, Turn.record?, made]
    simp [totalOf]
  | @nested turn turns inside total spent inner build _ ran made _ _ ihInside ih =>
    -- the cost of the step is the value of the inner build, which stands for the total inside
    have cost : BitVec.ofNat 256 (totalOf turn.record?.toList) = build.value := by
      rw [Turn.record?, made]
      simp [totalOf, BuiltStep.cost, BuiltStep.value]
    rw [recordsOf_cons, totalOf_append, BitVec.ofNat_add, BitVec.ofNat_add, ih, cost, ran.holds.value, ihInside]

/-! ## The value -/

/-- The pipe writes the value behind the calls. -/
theorem Encoder.encodeArguments_advancedPipe {encoder : Encoder} (kind : encoder.kind = .advancedPipe)
    {calls : List NamedCall} {value : Uint256} {arguments : Bytes}
    (encoded : encoder.encodeArguments calls value = .ok arguments) :
    ∃ parts, advancedPipeParts calls = .ok parts ∧
      arguments = Abi.params [Abi.arrayPart parts, Abi.uintPart value] := by
  simp only [encodeArguments, kind, advancedPipeArguments] at encoded
  split at encoded
  · cases encoded
  case h_2 parts made => exact ⟨parts, made, (Except.ok.inj encoded).symm⟩

namespace Workflow

variable {workflow : Workflow σ} {amount : Uint256} {world after : World σ}

/-- A value that stands for a total modulo `2 ^ 256` does so wherever it is read. -/
theorem Valued.of_value {cells : Cells} {total : Nat} (value : workflow.value cells = BitVec.ofNat 256 total) :
    workflow.Valued cells total := by
  have remainder : (workflow.value cells).toNat = total % 2 ^ 256 := by rw [value, BitVec.toNat_ofNat]
  have isLess := Nat.mod_lt total (Nat.two_pow_pos 256)
  refine ⟨value, ⟨fun exact => ?_, fun fits => ?_⟩, fun tooMuch => ?_, fun call finalized => ?_,
    fun call finalized kind => ?_⟩
  · omega
  · rw [remainder, Nat.mod_eq_of_lt fits]
  · omega
  · obtain ⟨-, -, -, attached⟩ := finalize_ok finalized
    rw [attached, value]
  · obtain ⟨prepared, -, encoded, -⟩ := finalize_ok finalized
    obtain ⟨parts, -, arguments⟩ := Encoder.encodeArguments_advancedPipe kind encoded
    exact ⟨parts, value ▸ arguments⟩

/-- After every build that succeeds, the value is the total of the steps that are not left out
exactly if the total is less than `2 ^ 256`, and it is less than the total otherwise; so it is with
the total at any depth. -/
theorem value_exact_iff_total_lt {mode : RunMode} {data : RunData} {out : Uint256}
    (ok : workflow.build amount mode data world = (.ok out, after)) :
    ∃ turns built total, workflow.Ran ⟨mode, data⟩ amount world turns built after ∧
      (∀ turn ∈ turns, turn.step?.isSome = !turn.isLeftOut) ∧
      (workflow.currentOrEmpty after.cells).steps = turns.filterMap Turn.step? ∧
      workflow.Valued after.cells ((workflow.currentOrEmpty after.cells).steps.map BuiltStep.cost).sum ∧
      Spends ⟨mode, data⟩ turns total ∧ workflow.Valued after.cells total := by
  obtain ⟨built, -, ok⟩ := build_ok ok
  obtain ⟨turns, ran⟩ := buildFor_ok ok
  obtain ⟨total, spends⟩ := ran.exists_spends
  have current := ran.currentOrEmpty
  have value : workflow.value after.cells = BitVec.ofNat 256 (totalOf (recordsOf turns)) := by
    rw [Workflow.value, current, ran.holds.value]
  have made (turn : Turn σ) (isIn : turn ∈ turns) := (ran.taken turn isIn).isSome_step?
  refine ⟨turns, built, total, ran, made, ?_, .of_value ?_, spends, .of_value ?_⟩
  · rw [current, ran.holds.steps, recordsOf, List.map_filterMap]
    refine List.filterMap_congr fun turn _ => ?_
    cases made : turn.step? <;> simp [Turn.record?, made]
  · rw [value, current, ran.holds.steps, List.map_map]
    rfl
  · rw [value, spends.ofNat_eq]

/-- A plan that needs currency for a local step and for a call of a nested workflow, and not for a
step that is left out. -/
def fundedPlan (own inside : Uint256) : Workflow Unit :=
  let raw (name : String) (value : Uint256) : Generator Unit :=
    RawCall.generator ⟨name, none, [1], .absent, none, some value⟩
  let inner : Workflow Unit := ⟨[1], "inner", ⟨.farm, default⟩, [⟨raw "deposit" inside, .plain⟩]⟩
  ⟨[0], "funded", ⟨.advancedPipe, default⟩,
    [⟨raw "claim" own, ⟨none, .never, true, false⟩⟩, ⟨raw "unused" 7, ⟨none, .always, false, false⟩⟩,
      ⟨inner.asGenerator, .plain⟩]⟩

theorem fundedPlan_value_exact :
    ∃ turns built total after, (fundedPlan 3 5).build 0 .reversed .empty (.start ()) = (.ok 0, after) ∧
      (fundedPlan 3 5).Ran ⟨.reversed, .empty⟩ 0 (.start ()) turns built after ∧
      (fundedPlan 3 5).Valued after.cells
        (((fundedPlan 3 5).currentOrEmpty after.cells).steps.map BuiltStep.cost).sum ∧
      Spends ⟨.reversed, .empty⟩ turns total ∧ (fundedPlan 3 5).Valued after.cells total ∧
      (fundedPlan 3 5).value after.cells = 8 := by
  have ok : (fundedPlan 3 5).build 0 .reversed .empty (.start ()) =
      (.ok 0, ((fundedPlan 3 5).build 0 .reversed .empty (.start ())).2) := rfl
  obtain ⟨turns, built, total, ran, -, -, valued, spends, deep⟩ := value_exact_iff_total_lt ok
  exact ⟨turns, built, total, _, ok, ran, valued, spends, deep, rfl⟩

/-- Two values that do not fit together are sent as none at all. -/
theorem fundedPlan_value_wraps :
    ∃ after call, (fundedPlan (BitVec.allOnes 256) 1).build 0 .execute .empty (.start ()) = (.ok 0, after) ∧
      (((fundedPlan (BitVec.allOnes 256) 1).currentOrEmpty after.cells).steps.map BuiltStep.cost).sum = 2 ^ 256 ∧
      (fundedPlan (BitVec.allOnes 256) 1).value after.cells = 0 ∧
      (fundedPlan (BitVec.allOnes 256) 1).finalize after.cells = .ok call ∧ call.value = 0 :=
  ⟨_, _, rfl, rfl, rfl, rfl, rfl⟩

end Workflow

end CallWeave
