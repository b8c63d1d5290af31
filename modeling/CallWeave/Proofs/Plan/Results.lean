import CallWeave.Proofs.Codec.Octets
import CallWeave.Proofs.Plan.Submission

/-!
# Results are matched to steps

Return data of a plan are a list of entries, one for each step that is sent, and the entry of a step that holds a plan
is the return data of that plan. `PlanDocument.Answers` says which results this makes, at every depth. Decoding gives
these results, and a decoding error where there are none (`PlanLevel.decodeReturn_decides`): nothing is left out and
nothing shifts. So results that are encoded, each list of them in the entry of its step, come back as they are
(`PlanLevel.callStatic_matches_results`).
-/

namespace CallWeave

variable {σ : Type}

/-! ## Answers to a plan -/

/-- A result among those of a plan inside: what was decoded of it, or null, its name, and its bytes as
hexadecimal text. -/
def StepResult.record (result : StepResult) : Json :=
  .object [("decoded", result.decoded.getD .null), ("name", .string result.name),
    ("raw", .string (Hex.octets result.raw))]

mutual

/-- Return data answer a plan with results: they list one entry for each step that is sent in a mode, and the entries
answer the steps. What it is for bytes to list entries is left open. -/
inductive PlanDocument.Answers (lists : Bytes → List Bytes → Prop) (mode : RunMode) :
    PlanDocument → Bytes → List StepResult → Prop
  | intro {plan : PlanDocument} {data : Bytes} {entries : List Bytes} {results : List StepResult}
      (listed : lists data entries)
      (each : PlanDocument.StepAnswers lists mode (plan.steps.filter (·.isSent mode)) entries results) :
      PlanDocument.Answers lists mode plan data results

/-- Entries answer steps one by one. That of a call is its result as it is; that of a plan is decoded as the results
inside. -/
inductive PlanDocument.StepAnswers (lists : Bytes → List Bytes → Prop) (mode : RunMode) :
    List PlanStep → List Bytes → List StepResult → Prop
  | nil : PlanDocument.StepAnswers lists mode [] [] []
  | call {step : PlanStep} {steps : List PlanStep} {entry : Bytes} {entries : List Bytes} {results : List StepResult}
      (flat : step.workflow = none) (rest : PlanDocument.StepAnswers lists mode steps entries results) :
      PlanDocument.StepAnswers lists mode (step :: steps) (entry :: entries) (⟨step.name, entry, none⟩ :: results)
  | plan {step : PlanStep} {inner : PlanDocument} {steps : List PlanStep} {entry : Bytes} {entries : List Bytes}
      {below results : List StepResult} (holds : step.workflow = some inner)
      (inside : PlanDocument.Answers lists mode inner entry below)
      (rest : PlanDocument.StepAnswers lists mode steps entries results) :
      PlanDocument.StepAnswers lists mode (step :: steps) (entry :: entries)
        (⟨inner.workflow.getD step.name, entry, some (.array (below.map StepResult.record))⟩ :: results)

end

namespace PlanDocument

variable {lists : Bytes → List Bytes → Prop} {mode : RunMode} {plan : PlanDocument} {data : Bytes}
  {results : List StepResult} {step : PlanStep} {steps : List PlanStep} {entry : Bytes} {entries : List Bytes}

theorem answers_iff :
    plan.Answers lists mode data results ↔
      ∃ entries, lists data entries ∧ StepAnswers lists mode (plan.steps.filter (·.isSent mode)) entries results := by
  constructor
  · rintro ⟨listed, each⟩
    exact ⟨_, listed, each⟩
  · rintro ⟨entries, listed, each⟩
    exact .intro listed each

theorem stepAnswers_nil_iff : StepAnswers lists mode [] [] results ↔ results = [] := by
  constructor
  · rintro ⟨⟩
    rfl
  · rintro rfl
    exact .nil

/-- The first entry is the result of a call. -/
theorem stepAnswers_cons_iff_of_flat (flat : step.workflow = none) :
    StepAnswers lists mode (step :: steps) (entry :: entries) results ↔
      ∃ rest, StepAnswers lists mode steps entries rest ∧ results = ⟨step.name, entry, none⟩ :: rest := by
  constructor
  · intro each
    cases each with
    | call _ rest => exact ⟨_, rest, rfl⟩
    | plan holds => simp [flat] at holds
  · rintro ⟨rest, each, rfl⟩
    exact .call flat each

/-- The first entry is the return data of a plan. -/
theorem stepAnswers_cons_iff_of_plan {inner : PlanDocument} (holds : step.workflow = some inner) :
    StepAnswers lists mode (step :: steps) (entry :: entries) results ↔
      ∃ below, inner.Answers lists mode entry below ∧ ∃ rest, StepAnswers lists mode steps entries rest ∧
        results = ⟨inner.workflow.getD step.name, entry, some (.array (below.map StepResult.record))⟩ :: rest := by
  constructor
  · intro each
    cases each with
    | call flat => simp [holds] at flat
    | plan holds' inside rest =>
      obtain rfl := Option.some.inj (holds.symm.trans holds')
      exact ⟨_, inside, _, rest, rfl⟩
  · rintro ⟨below, inside, rest, each, rfl⟩
    exact .plan holds inside each

/-- There is one entry for each step. -/
theorem StepAnswers.length_eq (each : StepAnswers lists mode steps entries results) :
    entries.length = steps.length := by
  induction steps generalizing entries results with
  | nil =>
    cases each
    rfl
  | cons step rest ih =>
    cases each with
    | call _ later => rw [List.length_cons, List.length_cons, ih later]
    | plan _ _ later => rw [List.length_cons, List.length_cons, ih later]

/-- Entries answer steps as well where the plans inside are answered as well. -/
theorem StepAnswers.imp {lists' : Bytes → List Bytes → Prop} (each : StepAnswers lists mode steps entries results)
    (inside : ∀ step ∈ steps, ∀ inner ∈ step.workflow, ∀ entry ∈ entries, ∀ below,
      inner.Answers lists mode entry below → inner.Answers lists' mode entry below) :
    StepAnswers lists' mode steps entries results := by
  induction steps generalizing entries results with
  | nil =>
    cases each
    exact .nil
  | cons step steps ih =>
    have later {entry : Bytes} {entries : List Bytes} {results : List StepResult}
        (rest : StepAnswers lists mode steps entries results)
        (inside : ∀ other ∈ step :: steps, ∀ inner ∈ other.workflow, ∀ raw ∈ entry :: entries, ∀ below,
          inner.Answers lists mode raw below → inner.Answers lists' mode raw below) :
        StepAnswers lists' mode steps entries results :=
      ih rest fun other isOther inner holds raw isRaw =>
        inside other (List.mem_cons_of_mem _ isOther) inner holds raw (List.mem_cons_of_mem _ isRaw)
    cases each with
    | call flat rest => exact .call flat (later rest inside)
    | plan holds answers rest =>
      exact .plan holds (inside step List.mem_cons_self _ holds _ List.mem_cons_self _ answers) (later rest inside)

end PlanDocument

/-! ## Deciding what is right -/

/-- An attempt at decoding gives the only value that is right, or a decoding error where none is. -/
def Decides {α : Type} (right : α → Prop) : Except WorkflowError α → Prop
  | .ok a => ∀ other, right other ↔ other = a
  | .error e => (∃ message, e = .decode Encoder.resultsName message) ∧ ∀ a, ¬ right a

namespace Decides

variable {α β : Type} {right : α → Prop} {attempt : Except WorkflowError α}

theorem ok_iff (decides : Decides right attempt) {a : α} : attempt = .ok a ↔ right a := by
  cases attempt with
  | error e => simp only [reduceCtorEq, decides.2 a]
  | ok given => rw [decides a, Except.ok.injEq, eq_comm]

/-- Where nothing is right, there is a decoding error. -/
theorem exists_error (decides : Decides right attempt) (none : ∀ a, ¬ right a) :
    ∃ message, attempt = .error (.decode Encoder.resultsName message) := by
  cases attempt with
  | error e =>
    obtain ⟨⟨message, rfl⟩, -⟩ := decides
    exact ⟨message, rfl⟩
  | ok given => exact absurd ((decides given).mpr rfl) (none given)

theorem congr {right' : α → Prop} (same : ∀ a, right' a ↔ right a) (decides : Decides right attempt) :
    Decides right' attempt := by
  rwa [show right' = right from funext fun a => propext (same a)]

/-- An attempt is followed by others. -/
theorem bind {right' : α → β → Prop} {next : α → Except WorkflowError β} (first : Decides right attempt)
    (second : ∀ a, Decides (right' a) (next a)) :
    Decides (fun b => ∃ a, right a ∧ right' a b) (attempt.bind next) := by
  cases attempt with
  | error e => exact ⟨first.1, fun b ⟨a, isRight, _⟩ => first.2 a isRight⟩
  | ok given => exact congr (fun b => by simp [first _]) (second given)

/-- What is right is carried along. -/
theorem map {make : α → β} (decides : Decides right attempt) :
    Decides (fun b => ∃ a, right a ∧ b = make a) (attempt.map make) := by
  cases attempt with
  | error e => exact ⟨decides.1, fun b ⟨a, isRight, _⟩ => decides.2 a isRight⟩
  | ok given => exact fun b => by simp [decides _]

end Decides

/-! ## Return data -/

namespace Abi

/-- Bytes are read as an array with some entries. -/
def ReadAs (data : Bytes) (entries : List Bytes) : Prop := bytesArray data = .ok entries

/-- Entries, written as an array. -/
def bytesData (entries : List Bytes) : Bytes := params [arrayPart (entries.map bytesPart)]

variable {entries : List Bytes}

/-- What is written as an array is read. -/
theorem readAs_bytesData (held : (bytesData entries).length < 2 ^ 64) : ReadAs (bytesData entries) entries :=
  bytesArray_params held

/-- Each entry is held as well. -/
theorem length_lt_of_mem_bytesData (held : (bytesData entries).length < 2 ^ 64) :
    ∀ entry ∈ entries, entry.length < 2 ^ 64 := by
  intro entry isIn
  have array := tail_lt_of_mem (List.mem_singleton.mpr rfl) held
  rw [List.length_append] at array
  exact bytes_lt_of_mem (List.mem_map_of_mem isIn) (by omega)

end Abi

namespace PlanDocument

/-- Return data are written, every list of entries as an array. -/
abbrev Written (data : Bytes) (entries : List Bytes) : Prop := data = Abi.bytesData entries

/-- Written return data are read as they were written. -/
theorem Answers.readAs_of_written {mode : RunMode} {plan : PlanDocument} {data : Bytes} {results : List StepResult}
    (answers : plan.Answers Written mode data results) (held : data.length < 2 ^ 64) :
    plan.Answers Abi.ReadAs mode data results := by
  induction plan using PlanDocument.induction generalizing data results with
  | level plan ih =>
    obtain ⟨entries, written, each⟩ := answers_iff.mp answers
    rw [written] at held ⊢
    refine answers_iff.mpr ⟨entries, Abi.readAs_bytesData held, each.imp ?_⟩
    intro step isStep inner holds entry isEntry below inside
    exact ih step (List.mem_of_mem_filter isStep) inner holds inside (Abi.length_lt_of_mem_bytesData held entry isEntry)

end PlanDocument

/-! ## Decoding -/

/-- An array of bytes is decoded exactly if it is read. -/
theorem Encoder.decodeResults_decides (data : Bytes) : Decides (Abi.ReadAs data) (Encoder.decodeResults data) := by
  rw [Encoder.decodeResults]
  cases read : Abi.bytesArray data with
  | error e => exact ⟨⟨_, rfl⟩, fun entries ok => by simp [Abi.ReadAs, read] at ok⟩
  | ok entries => exact fun other => by simp [Abi.ReadAs, read, eq_comm]

theorem decodeReturnOf_eq_bind (cells : Cells) (cell : CellId) (name : String) (nested : NestedDecoders)
    (data : Bytes) :
    decodeReturnOf cells cell name nested data =
      (Encoder.decodeResults data).bind (decodeResultsOf cells cell name nested) := by
  rw [decodeReturnOf]
  cases Encoder.decodeResults data <;> rfl

/-! ## Records -/

/-- Results are written as their records. -/
theorem StepResult.toJson_eq_record : StepResult.toJson = StepResult.record := by
  funext result
  rw [toJson, record, bytesToJson, Hex.encode_eq_octets]

section Steps

variable {nested : NestedDecoders} (steps : List BuiltStep) (entry : Bytes) (entries : List Bytes)

/-- The result of a step that knows no decoding is passed on. -/
theorem decodeAll_own {step : Step} (isRaw : step.resultDecoder = none) :
    decodeAll nested (.own step :: steps) (entry :: entries) =
      (decodeAll nested steps entries).map (⟨step.name, entry, none⟩ :: ·) := by
  rw [decodeAll, BuiltStep.decodeResult, Step.decodeResult, isRaw, Step.runDecoder]
  cases decodeAll nested steps entries <;> rfl

/-- The result of a nested workflow is decoded before those behind it. -/
theorem decodeAll_nested {cell : CellId} {name : String} {amountOut value : Uint256}
    {below : Except WorkflowError (List StepResult)} (same : nested cell entry = below.map resultsToJson) :
    decodeAll nested (.nested cell name amountOut value :: steps) (entry :: entries) =
      below.bind fun results =>
        (decodeAll nested steps entries).map (⟨name, entry, some (.array (results.map StepResult.record))⟩ :: ·) := by
  rw [← StepResult.toJson_eq_record, decodeAll, BuiltStep.decodeResult, same]
  cases below with
  | error e => rfl
  | ok results => cases decodeAll nested steps entries <;> rfl

end Steps

namespace Workflow

variable {workflow inner : Workflow σ}

/-- The first entry that answers is asked for the decoded result. -/
theorem nestedDecode?_eq_findSome? (cells : Cells) (entries : List (Entry (Generator σ))) (wanted : CellId)
    (data : Bytes) :
    nestedDecode? cells entries wanted data =
      entries.findSome? fun entry => entry.generator.decodeIn? cells wanted data := by
  induction entries with
  | nil => rw [nestedDecode?, List.findSome?_nil]
  | cons entry rest ih =>
    obtain ⟨generator, options⟩ := entry
    rw [nestedDecode?, ih, List.findSome?_cons]
    cases generator.decodeIn? cells wanted data <;> rfl

/-- A workflow answers for its own cell with its own decoding. -/
theorem decodeIn?_asGenerator (workflow : Workflow σ) (cells : Cells) (wanted : CellId) (data : Bytes) :
    workflow.asGenerator.decodeIn? cells wanted data =
      if workflow.cell = wanted then some ((workflow.decodeReturn cells data).map resultsToJson) else none := by
  rw [asGenerator, Generator.decodeIn?]
  rfl

/-- In a coherent plan, the result of a nested workflow is decoded by the workflow. -/
theorem nestedDecoders_eq_decodeReturn (coherent : workflow.Coherent) {entry : Entry (Generator σ)}
    (isEntry : entry ∈ workflow.entries) (isInner : entry.generator = inner.asGenerator) (cells : Cells)
    (data : Bytes) :
    workflow.nestedDecoders cells inner.cell data = (inner.decodeReturn cells data).map resultsToJson := by
  have decoded : nestedDecode? cells workflow.entries inner.cell data =
      some ((inner.decodeReturn cells data).map resultsToJson) := by
    rw [nestedDecode?_eq_findSome?]
    refine findSome?_eq_of_unique (·.decodeIn? cells inner.cell data) isEntry isInner
      (coherent.eq_of_cell_eq isEntry isInner) ?_ ?_ ?_
    · intro name run
      simp only [Generator.decodeIn?]
    · intro other isOther
      rw [decodeIn?_asGenerator, if_neg isOther]
    · rw [decodeIn?_asGenerator, if_pos rfl]
  rw [nestedDecoders, decoded, Option.getD_some]

end Workflow

namespace PlanLevel

variable {contracts : Contracts} {level : PlanLevel} {workflow : Workflow σ} {cells : Cells} {mode : RunMode}
  {nested : NestedDecoders}

/-- The entry of each nested plan that is sent is decoded as the results of the plan. -/
def DecidesBelow (mode : RunMode) (nested : NestedDecoders) (level : PlanLevel) : Prop :=
  ∀ (place : Nat) (step : PlanStep) (inner : PlanDocument), level.plan.steps[place]? = some step →
    step.isSent mode = true → step.workflow = some inner → ∀ entry, ∃ below : Except WorkflowError (List StepResult),
      nested (place :: level.cell) entry = below.map resultsToJson ∧
        Decides (inner.Answers Abi.ReadAs mode entry) below

/-- As many entries as there are steps are decoded step by step. -/
theorem decodeAll_decides (below : level.DecidesBelow mode nested) {placed : List (PlanStep × Nat)}
    (isSent : ∀ step ∈ placed, step ∈ level.plan.sent mode) {built : List BuiltStep}
    (makes : List.Forall₂ (level.Makes mode) placed built) {entries : List Bytes}
    (counted : entries.length = built.length) :
    Decides (PlanDocument.StepAnswers Abi.ReadAs mode (placed.map Prod.fst) entries)
      (decodeAll nested built entries) := by
  induction makes generalizing entries with
  | nil =>
    obtain rfl : entries = [] := List.eq_nil_of_length_eq_zero counted
    exact fun results => PlanDocument.stepAnswers_nil_iff
  | @cons placed built _ _ makes _ ih =>
    obtain ⟨entry, entries, rfl⟩ := List.exists_cons_of_length_eq_add_one counted
    rw [List.forall_mem_cons] at isSent
    have rest := ih isSent.2 (Nat.succ.inj counted)
    cases makes with
    | call _ flat =>
      rw [decodeAll_own _ _ _ rfl]
      exact rest.map.congr fun results => PlanDocument.stepAnswers_cons_iff_of_flat flat
    | plan _ holds =>
      obtain ⟨step, place⟩ := placed
      obtain ⟨isStep, sent⟩ := PlanDocument.mem_sent.mp isSent.1
      obtain ⟨outcome, same, inside⟩ := below place step _ isStep sent holds entry
      rw [decodeAll_nested _ _ _ same]
      exact (inside.bind fun _ => rest.map).congr fun results => PlanDocument.stepAnswers_cons_iff_of_plan holds

/-- Entries are decoded by a build that keeps a level if there is one for each step that is sent. -/
theorem Kept.decodeResults_decides {build : Build} (kept : level.Kept mode build)
    (below : level.DecidesBelow mode nested) (entries : List Bytes) :
    Decides (PlanDocument.StepAnswers Abi.ReadAs mode (level.plan.steps.filter (·.isSent mode)) entries)
      (build.decodeResults nested entries) := by
  rw [Build.decodeResults, ← PlanDocument.map_sent]
  split
  case isTrue counted =>
    refine decodeAll_decides below (fun _ isIn => isIn) kept.emittedSteps ?_
    rw [counted, kept.length, kept.emittedSteps.length_eq]
  case isFalse miscounted =>
    refine ⟨⟨_, rfl⟩, fun results each => miscounted ?_⟩
    rw [each.length_eq, List.length_map, kept.length]

/-- Where a level stands, return data are decoded as what answers the plan. -/
theorem decodeReturn_decides (accepted : level.workflow contracts = .ok workflow)
    (stands : level.Stands mode cells) (data : Bytes) :
    Decides (level.plan.Answers Abi.ReadAs mode data) (workflow.decodeReturn cells data) := by
  induction level using PlanLevel.induction generalizing workflow data with
  | level level ih =>
    obtain ⟨build, isBuild, kept⟩ := stands _ .self
    have described := describes accepted
    have below : level.DecidesBelow mode (workflow.nestedDecoders cells) := by
      intro place step inner isStep isSent holds entry
      obtain ⟨_, below, isEntry, isBelow, cell, accepted'⟩ := exists_entry_inside accepted isStep holds
      have inside := stands.inside isStep (PlanStepOf.takesPart_of_isSent isSent) holds
      have coherent := coherent_of_accepted accepted
      have decoder := Workflow.nestedDecoders_eq_decodeReturn coherent isEntry isBelow cells entry
      rw [cell] at decoder
      exact ⟨_, decoder, ih place step inner isStep holds accepted' inside entry⟩
    rw [Workflow.decodeReturn, decodeReturnOf_eq_bind]
    refine Decides.congr (fun results => PlanDocument.answers_iff)
      ((Encoder.decodeResults_decides data).bind fun entries => ?_)
    rw [decodeResultsOf, described.cell, isBuild, requireBuild]
    exact kept.decodeResults_decides below entries

/-- After a build whose call is finalized, the level stands. -/
theorem stands_of_outbound (accepted : level.workflow contracts = .ok workflow) {amount : Uint256} {data : RunData}
    {world built : World σ} {call : OutboundCall}
    (ok : workflow.outbound amount mode data world = (.ok call, built)) : level.Stands mode built.cells := by
  rw [Workflow.outbound_eq] at ok
  cases outcome : workflow.buildFor ⟨mode, data⟩ amount world with | mk build after =>
  rw [outcome] at ok
  cases build with
  | error e => simp at ok
  | ok build =>
    obtain rfl : after = built := (Prod.mk.inj ok).2
    exact stands_of_buildFor accepted outcome

/-- Whatever a transport returns to the simulation of a plan, the results are those that answer the plan, and if no
results do, at whatever depth, there is a decoding error. Results that are written come back as they are. -/
theorem callStatic_matches_results {plan : PlanDocument} {cell : CellId}
    (accepted : plan.toWorkflow contracts cell = .ok workflow) {amount : Uint256} {data : RunData}
    {world built : World σ} {call : OutboundCall}
    (ok : workflow.outbound amount .readOnlyCall data world = (.ok call, built)) {transport : Transport σ}
    {sender : Option Address} {returned : Bytes} {outside : σ}
    (answered : transport.call (call.toRequest sender) built.outside = (.ok returned, outside)) :
    let simulated := (workflow.callStatic amount data transport sender world).1
    (∀ results, simulated = .ok results ↔ plan.Answers Abi.ReadAs .readOnlyCall returned results) ∧
      ((¬ ∃ results, plan.Answers Abi.ReadAs .readOnlyCall returned results) →
        ∃ message, simulated = .error (.decode Encoder.resultsName message)) ∧
      ∀ results, plan.Answers PlanDocument.Written .readOnlyCall returned results → returned.length < 2 ^ 64 →
        simulated = .ok results := by
  have accepted : (root plan cell).workflow contracts = .ok workflow := accepted
  have simulated : (workflow.callStatic amount data transport sender world).1 =
      workflow.decodeReturn built.cells returned := by
    rw [Workflow.callStatic, ok]
    simp only [Workflow.ask_eq, answered]
    rfl
  have decides := decodeReturn_decides accepted (stands_of_outbound accepted ok) returned
  rw [← simulated] at decides
  refine ⟨fun results => decides.ok_iff, fun none => decides.exists_error (not_exists.mp none), ?_⟩
  exact fun results answers held => decides.ok_iff.mpr (answers.readAs_of_written held)

/-- A stage on which the calls of the layered plan return some bytes and some results of the nested plan. -/
def layeredStage (inside : List Bytes) : Stage :=
  Stage.empty.set "node" ⟨[.returned (Abi.bytesData [[170, 187], Abi.bytesData inside, [221]])], []⟩

/-- The one result of the nested plan is found in the second entry, between those of the calls around it; another one
behind it is refused. -/
theorem layeredPlan_results :
    ∃ workflow : Workflow Stage, layeredPlan.toWorkflow default [] = .ok workflow ∧
      (workflow.callStatic 7 .empty (Stage.transport "node") none (.start (layeredStage [[204]]))).1 =
        .ok [⟨"swap", [170, 187], none⟩,
          ⟨"inner", Abi.bytesData [[204]],
            some (.array [.object [("decoded", .null), ("name", .string "claim"), ("raw", .string "0xcc")]])⟩,
          ⟨"deposit", [221], none⟩] ∧
      ∃ message, (workflow.callStatic 7 .empty (Stage.transport "node") none
        (.start (layeredStage [[204], [205]]))).1 = .error (.decode Encoder.resultsName message) := by
  obtain ⟨workflow, accepted, sends⟩ : ∃ workflow : Workflow Stage, layeredPlan.toWorkflow default [] = .ok workflow ∧
      (workflow.outbound 7 .readOnlyCall .empty (.start Stage.empty)).1.toOption.isSome = true :=
    ⟨_, rfl, by decide +kernel⟩
  -- the call that is simulated is the same in all worlds, and none of them is changed on the way to it
  have each (stage : Stage) : ∃ call built, workflow.outbound 7 .readOnlyCall .empty (.start stage) = (.ok call, built) ∧
      built.outside = stage := by
    have isRoot : (root layeredPlan []).workflow default = .ok workflow := accepted
    have same : layeredPlan.SameIn .readOnlyCall .readOnlyCall := layeredPlan.sameIn_of_isStatic rfl rfl
    have agrees := outbound_agrees isRoot same 7 .empty .empty (.start stage) (.start Stage.empty)
    have outside : (workflow.outbound 7 .readOnlyCall .empty (.start stage)).2.outside = stage := by
      rw [workflow.outbound_snd, buildFor_outside isRoot]
      rfl
    cases outcome : workflow.outbound 7 .readOnlyCall .empty (.start stage) with | mk made built =>
    rw [outcome] at agrees outside
    cases made with
    | error e =>
      rw [← agrees] at sends
      cases sends
    | ok call => exact ⟨call, built, rfl, outside⟩
  choose call built ok outside using each
  have answered (inside : List Bytes) :
      ((Stage.transport "node").call ((call (layeredStage inside)).toRequest none)
        (built (layeredStage inside)).outside).1 = .ok (Abi.bytesData [[170, 187], Abi.bytesData inside, [221]]) := by
    rw [outside]
    rfl
  have simulated (inside : List Bytes) :=
    callStatic_matches_results accepted (ok (layeredStage inside)) (Prod.ext (answered inside) rfl)
  -- three steps are sent, and one below the second
  obtain ⟨swap, layer, deposit, inner, collect, sent, flat, swapName, holds, innerName, flatLast, depositName,
      sentBelow, flatBelow, collectName⟩ :
      ∃ swap layer deposit inner collect,
        layeredPlan.steps.filter (·.isSent .readOnlyCall) = [swap, layer, deposit] ∧
        swap.workflow = none ∧ swap.name = "swap" ∧ layer.workflow = some inner ∧
        inner.workflow.getD layer.name = "inner" ∧ deposit.workflow = none ∧ deposit.name = "deposit" ∧
        inner.steps.filter (·.isSent .readOnlyCall) = [collect] ∧ collect.workflow = none ∧ collect.name = "claim" :=
    ⟨_, _, _, _, _, rfl, rfl, rfl, rfl, rfl, rfl, rfl, rfl, rfl, rfl⟩
  refine ⟨workflow, accepted, (simulated [[204]]).2.2 _ ?_ (by decide +kernel), (simulated [[204], [205]]).2.1 ?_⟩
  · have record : Json.object [("decoded", .null), ("name", .string "claim"), ("raw", .string "0xcc")] =
        StepResult.record ⟨collect.name, [204], none⟩ := by
      rw [collectName]
      rfl
    have below : inner.Answers PlanDocument.Written .readOnlyCall (Abi.bytesData [[204]]) [⟨collect.name, [204], none⟩] :=
      .intro rfl (sentBelow ▸ .call flatBelow .nil)
    rw [record, ← swapName, ← innerName, ← depositName]
    exact .intro rfl (sent ▸ .call flat (.plan holds below (.call flatLast .nil)))
  · rintro ⟨results, answers⟩
    obtain ⟨entries, listed, each⟩ := PlanDocument.answers_iff.mp answers
    obtain rfl := Except.ok.inj (listed.symm.trans (Abi.readAs_bytesData (by decide +kernel)))
    rw [sent, PlanDocument.stepAnswers_cons_iff_of_flat flat] at each
    obtain ⟨rest, each, -⟩ := each
    obtain ⟨below, answers, -⟩ := (PlanDocument.stepAnswers_cons_iff_of_plan holds).mp each
    obtain ⟨entries, listed, each⟩ := PlanDocument.answers_iff.mp answers
    obtain rfl := Except.ok.inj (listed.symm.trans (Abi.readAs_bytesData (by decide +kernel)))
    have counted := each.length_eq
    rw [sentBelow] at counted
    cases counted

end PlanLevel

end CallWeave
