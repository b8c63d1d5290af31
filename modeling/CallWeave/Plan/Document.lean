import CallWeave.Generator.RawCall
import CallWeave.Workflow.Encoder

/-!
# Plan documents

A plan is a workflow written down: an entry point and a list of steps, each of which is either a call with
its calldata or a plan of its own that is sent as one call. `PlanDocument.toJson` writes every field.
-/

namespace CallWeave

/-- The clipboard of a step in a plan. -/
inductive PlanClipboard where
  /-- A word that the step with a tag returns. -/
  | fromTag (tag : String) (copySlot : Option UInt64) (pasteSlot : UInt64)
  /-- Instructions as they stand in the plan. -/
  | literal (instructions : Json) (value : Option Uint256)

/-- A step of a plan, whose nested plans are of type `δ`. -/
structure PlanStepOf (δ : Type) where
  name : String
  callData : Option Bytes
  target : Option Address
  tag : Option String
  skip : Bool
  onlyLocal : Bool
  onlyExecute : Bool
  /-- Stands in for the running amount, which is passed on otherwise. -/
  amountOut : Option Uint256
  value : Option Uint256
  clipboard : Option PlanClipboard
  /-- A plan that is sent as this single step. -/
  workflow : Option δ

/-- A workflow written down. -/
inductive PlanDocument where
  | mk (workflow : Option String) (kind : EncoderKind) (steps : List (PlanStepOf PlanDocument))

/-- A step of a plan. -/
abbrev PlanStep := PlanStepOf PlanDocument

namespace PlanDocument

/-- The name that the plan gives to its workflow. -/
def workflow : PlanDocument → Option String
  | .mk workflow _ _ => workflow

/-- The entry point of the workflow. -/
def kind : PlanDocument → EncoderKind
  | .mk _ kind _ => kind

/-- The steps in order. -/
def steps : PlanDocument → List PlanStep
  | .mk _ _ steps => steps

/-- The plan without steps. -/
def empty : PlanDocument := .mk none .advancedFarm []

/-- The name of the workflow. -/
def name (plan : PlanDocument) : String := plan.workflow.getD "default"

end PlanDocument

/-- A value in JSON, or null. -/
def Json.ofOption {α : Type} (json : α → Json) : Option α → Json
  | some a => json a
  | none => .null

/-- The clipboard of a step in JSON. -/
def PlanClipboard.toJson : PlanClipboard → Json
  | .fromTag tag copySlot pasteSlot =>
    .object [("from_tag", .string tag), ("copy_slot", .ofOption (fun slot => .ofNat slot.toNat) copySlot),
      ("paste_slot", .ofNat pasteSlot.toNat)]
  | .literal instructions value =>
    .object [("instructions", instructions), ("value", .ofOption uint256ToJson value)]

/-- A step in JSON, its nested plan being given. -/
def PlanStepOf.toJson (step : PlanStep) (workflow : Json) : Json :=
  .object [("name", .string step.name), ("call_data", .ofOption bytesToJson step.callData),
    ("target", .ofOption Address.toJson step.target), ("tag", .ofText? step.tag),
    ("skip", .bool step.skip), ("only_local", .bool step.onlyLocal), ("only_execute", .bool step.onlyExecute),
    ("amount_out", .ofOption uint256ToJson step.amountOut), ("value", .ofOption uint256ToJson step.value),
    ("clipboard", .ofOption PlanClipboard.toJson step.clipboard), ("workflow", workflow)]

mutual

/-- A plan in JSON. -/
def PlanDocument.toJson : PlanDocument → Json
  | .mk workflow kind steps =>
    .object [("workflow", .ofText? workflow), ("kind", .string kind.name),
      ("steps", .array (PlanDocument.stepsToJson steps))]

/-- Steps in JSON. -/
def PlanDocument.stepsToJson : List PlanStep → List Json
  | [] => []
  | step :: rest => step.toJson (PlanDocument.nestedToJson step.workflow) :: PlanDocument.stepsToJson rest

/-- A nested plan in JSON. -/
def PlanDocument.nestedToJson : Option PlanDocument → Json
  | none => .null
  | some plan => plan.toJson

end

end CallWeave
