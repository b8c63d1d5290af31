import CallWeave.CommandLine.Clipboard
import CallWeave.Files.Tree
import CallWeave.Plan.Reader
import CallWeave.Plan.Workflow
import CallWeave.Transport.JsonRpc
import CallWeave.Workflow.Submit

/-!
# Plan commands

Previewing a plan without a network, and simulating one through the endpoint of the configuration. Both print
a record whose fields, and those of the records in it, stand in the order of their names.
-/

namespace CallWeave.CommandLine

/-- A plan as a workflow over a line to an endpoint. -/
abbrev PlanWorkflow := Workflow JsonRpc.Line

/-- Reads the workflow of a plan from the file at a path. -/
def loadPlan (tree : FileTree) (contracts : Contracts) (path : String) : Except Failure PlanWorkflow :=
  match tree.readText? path with
  | none => .error (.planUnreadable path)
  | some text =>
    match Plan.parse? text with
    | none => .error (.planMalformed path)
    | some plan => (plan.toWorkflow contracts []).mapError .plan

/-- The amounts after the steps of a build. -/
def summaryToJson (summary : List (String × Uint256)) : Json :=
  .array (summary.map fun (name, amountOut) =>
    .object [("amount_out", uint256ToJson amountOut), ("name", .string name)])

/-- Tags with their positions, in the order of the tags. -/
def tagsToJson (tags : TagIndex) : Json :=
  .object ((tags.mergeSort fun a b => decide (a.1 ≤ b.1)).map fun (tag, position) => (tag, .ofNat position))

/-- A call as it would be submitted. -/
def outboundToJson (call : OutboundCall) : Json :=
  .object [("calldata", bytesToJson call.calldata), ("function", .string call.function),
    ("target", call.target.toJson), ("value", uint256ToJson call.value)]

/-- What a preview says about a build. -/
def previewToJson (workflow : PlanWorkflow) (cells : Cells) (mode : RunMode) (amountIn amountOut : Uint256)
    (call : Option OutboundCall) : Json :=
  .object [("amount_in", uint256ToJson amountIn), ("amount_out", uint256ToJson amountOut),
    ("call", (call.map outboundToJson).getD .null), ("mode", .string mode.name),
    ("steps", summaryToJson (workflow.summary cells)), ("tags", tagsToJson (workflow.tags cells)),
    ("value", uint256ToJson (workflow.value cells)), ("workflow", .string workflow.name)]

/-- The call of a build, unless it emits none. -/
def callOf (workflow : PlanWorkflow) (cells : Cells) : Except WorkflowError (Option OutboundCall) :=
  if workflow.length cells = 0 then .ok none else (workflow.finalize cells).map some

/-- Builds a plan in a mode and shows the build. -/
def previewPlan (workflow : PlanWorkflow) (data : RunData) (amount : Uint256) (modeText : String) (line : JsonRpc.Line) :
    Except Failure Json :=
  match RunMode.parse? modeText with
  | none => .error .unknownMode
  | some mode =>
    match workflow.build amount mode data (.start line) with
    | (.error e, _) => .error (.workflow e)
    | (.ok amountOut, world) =>
      match callOf workflow world.cells with
      | .error e => .error (.workflow e)
      | .ok call => .ok (previewToJson workflow world.cells mode amount amountOut call)

/-- Reads the sender of a simulation, if there is one. -/
def senderOf : Option String → Except Failure (Option Address)
  | none => .ok none
  | some raw =>
    match Address.parse raw with
    | .error e => .error (.badSender raw e)
    | .ok sender => .ok (some sender)

/-- Simulates a plan through an endpoint and shows what its steps return. -/
def simulatePlan (hosts : Url.HostParser) (workflow : PlanWorkflow) (data : RunData) (rpcUrl : String) (amount : Uint256)
    (sender : Option String) (line : JsonRpc.Line) : Except Failure Json × JsonRpc.Line :=
  match senderOf sender with
  | .error e => (.error e, line)
  | .ok sender =>
    match JsonRpc.endpoint hosts rpcUrl with
    | .error e => (.error (.transport e), line)
    | .ok url =>
      match workflow.callStatic amount data (JsonRpc.transport url) sender (.start line) with
      | (.error e, world) => (.error (.workflow e), world.outside)
      | (.ok results, world) =>
        (.ok (.object [("amount_in", uint256ToJson amount), ("results", resultsToJson results),
          ("workflow", .string workflow.name)]), world.outside)

/-- The run data of every plan that is built under a configuration. -/
def runDataOf (config : Config) : RunData := ⟨config.defaultSlippage, []⟩

/-- What a command about plans prints. -/
def PlanCommand.run (hosts : Url.HostParser) (config : Config) (tree : FileTree) (path amountText : String)
    (command : PlanCommand) (line : JsonRpc.Line) : Except Failure Json × JsonRpc.Line :=
  match amountOf "amount" amountText with
  | .error e => (.error e, line)
  | .ok amount =>
    match loadPlan tree config.network.contracts path with
    | .error e => (.error e, line)
    | .ok workflow =>
      match command with
      | .preview mode => (previewPlan workflow (runDataOf config) amount mode line, line)
      | .simulate sender => simulatePlan hosts workflow (runDataOf config) config.network.rpcUrl amount sender line

end CallWeave.CommandLine
