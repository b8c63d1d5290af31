import CallWeave.Workflow.Finalize

/-!
# Results

The return data of a sequence holds one result for each call. Each is decoded by its step; a nested workflow
decodes its result in turn as the results of its own calls.
-/

namespace CallWeave

/-- The decoded return data of one emitted step. -/
structure StepResult where
  name : String
  raw : Bytes
  /-- Missing when the step knows no decoding. -/
  decoded : Option Json

/-- A result as a record, its fields in the order of their names. -/
def StepResult.toJson (result : StepResult) : Json :=
  .object [("decoded", result.decoded.getD .null), ("name", .string result.name), ("raw", bytesToJson result.raw)]

/-- What asks a nested workflow to decode its result. -/
abbrev NestedDecoders := CellId → Decoder

/-- Decodes the result of a step. -/
def BuiltStep.decodeResult (nested : NestedDecoders) (data : Bytes) : BuiltStep → Except WorkflowError (Option Json)
  | .own step => step.decodeResult data
  | .nested cell _ _ _ => (nested cell data).map some

/-- Decodes the results of some steps in order, up to the first that fails. -/
def decodeAll (nested : NestedDecoders) : List BuiltStep → List Bytes → Except WorkflowError (List StepResult)
  | step :: steps, raw :: results =>
    match step.decodeResult nested raw with
    | .error e => .error e
    | .ok decoded =>
      match decodeAll nested steps results with
      | .error e => .error e
      | .ok rest => .ok (⟨step.name, raw, decoded⟩ :: rest)
  | _, _ => .ok []

/-- Decodes the results of a build: exactly one for each emitted step. -/
def Build.decodeResults (build : Build) (nested : NestedDecoders) (results : List Bytes) :
    Except WorkflowError (List StepResult) :=
  if results.length = build.emitted.length then decodeAll nested build.emittedSteps results
  else .error (.decode Encoder.resultsName
    ("expected " ++ toString build.emitted.length ++ " results, got " ++ toString results.length))

/-- Decodes results with the build that a cell holds. -/
def decodeResultsOf (cells : Cells) (cell : CellId) (name : String) (nested : NestedDecoders)
    (results : List Bytes) : Except WorkflowError (List StepResult) :=
  match requireBuild name (cells cell) with
  | .error e => .error e
  | .ok build => build.decodeResults nested results

/-- Decodes return data with the build that a cell holds. -/
def decodeReturnOf (cells : Cells) (cell : CellId) (name : String) (nested : NestedDecoders) (data : Bytes) :
    Except WorkflowError (List StepResult) :=
  match Encoder.decodeResults data with
  | .error e => .error e
  | .ok results => decodeResultsOf cells cell name nested results

/-- Results as one value. -/
def resultsToJson (results : List StepResult) : Json := .array (results.map StepResult.toJson)

mutual

/-- Decodes the result of a generator that is a workflow in a cell. -/
def Generator.decodeIn? {σ : Type} (cells : Cells) : Generator σ → CellId → Bytes → Option (Except WorkflowError Json)
  | .leaf _ _, _, _ => none
  | .nested cell name _ entries, wanted, data =>
    if cell = wanted then
      some ((decodeReturnOf cells cell name (fun inner raw =>
        (nestedDecode? cells entries inner raw).getD (.error (.notBuilt name))) data).map resultsToJson)
    else none

/-- Decodes the result of the workflow in a cell among some entries. -/
def nestedDecode? {σ : Type} (cells : Cells) :
    List (Entry (Generator σ)) → CellId → Bytes → Option (Except WorkflowError Json)
  | [], _, _ => none
  | ⟨generator, _⟩ :: rest, wanted, data =>
    match generator.decodeIn? cells wanted data with
    | some result => some result
    | none => nestedDecode? cells rest wanted data

end

namespace Workflow

variable {σ : Type}

/-- The decoders of the workflows nested in this one. -/
def nestedDecoders (workflow : Workflow σ) (cells : Cells) : NestedDecoders := fun cell data =>
  (nestedDecode? cells workflow.entries cell data).getD (.error (.notBuilt workflow.name))

/-- Decodes the results of the current build's calls. -/
def decodeResult (workflow : Workflow σ) (cells : Cells) (results : List Bytes) :
    Except WorkflowError (List StepResult) :=
  decodeResultsOf cells workflow.cell workflow.name (workflow.nestedDecoders cells) results

/-- Decodes the return data of the current build's outbound call. -/
def decodeReturn (workflow : Workflow σ) (cells : Cells) (data : Bytes) :
    Except WorkflowError (List StepResult) :=
  decodeReturnOf cells workflow.cell workflow.name (workflow.nestedDecoders cells) data

end Workflow

end CallWeave
