import CallWeave.Abi.Decoding
import CallWeave.Clipboard.Basic
import CallWeave.Config.Basic
import CallWeave.Step.Call
import CallWeave.Workflow.Error

/-!
# Entry points

A sequence of prepared calls is sent through one of three entry points. They differ in what they take of each
call: its payload alone, its payload and clipboard, or its target as well. All of them return one result for
each call.

```text
farm         (bytes[])
advancedFarm ((bytes payload, bytes clipboard)[])
advancedPipe ((address target, bytes payload, bytes clipboard)[], uint256 value)
```
-/

namespace CallWeave

/-- The entry points. -/
inductive EncoderKind where
  | farm
  | advancedFarm
  | advancedPipe
deriving DecidableEq, Inhabited

namespace EncoderKind

/-- The name under which plans choose an entry point. -/
def name : EncoderKind → String
  | .farm => "farm"
  | .advancedFarm => "advanced_farm"
  | .advancedPipe => "advanced_pipe"

/-- The entry point of a name. -/
def ofName? (name : String) : Option EncoderKind :=
  if name = "farm" then some .farm
  else if name = "advanced_farm" then some .advancedFarm
  else if name = "advanced_pipe" then some .advancedPipe
  else none

/-- The name of the contract's function. -/
def function : EncoderKind → String
  | .farm => "farm"
  | .advancedFarm => "advancedFarm"
  | .advancedPipe => "advancedPipe"

/-- The bytes that select the function. -/
def selector : EncoderKind → Bytes
  | .farm => [0x30, 0x0d, 0xd6, 0xcf]
  | .advancedFarm => [0x36, 0xbf, 0xaf, 0xbd]
  | .advancedPipe => [0xb4, 0x52, 0xc7, 0xae]

end EncoderKind

/-- An entry point at an address. -/
structure Encoder where
  kind : EncoderKind
  target : Address
deriving DecidableEq, Inhabited

namespace Encoder

/-- An entry point of some contracts. -/
def ofContracts (contracts : Contracts) (kind : EncoderKind) : Encoder :=
  match kind with
  | .farm | .advancedFarm => ⟨kind, contracts.beanstalk⟩
  | .advancedPipe => ⟨kind, contracts.depot⟩

/-- The clipboard of a call; one without any pastes nothing. -/
def clipboardOf (call : PreparedCall) : Bytes := call.clipboard.getD Clipboard.empty.toBytes

/-- The payload alone. -/
def farmPart (call : PreparedCall) : Abi.Part := Abi.bytesPart call.payload

/-- Payload and clipboard. -/
def advancedFarmPart (call : PreparedCall) : Abi.Part :=
  Abi.tuplePart [Abi.bytesPart call.payload, Abi.bytesPart (clipboardOf call)]

/-- Target, payload and clipboard; the target has to be there. -/
def advancedPipePart (named : NamedCall) : Except WorkflowError Abi.Part :=
  match named.call.target with
  | none => .error (.missingTarget named.step)
  | some target =>
    .ok (Abi.tuplePart [Abi.addressPart target, Abi.bytesPart named.call.payload,
      Abi.bytesPart (clipboardOf named.call)])

/-- The parts of all calls, or the error of the first without a target. -/
def advancedPipeParts : List NamedCall → Except WorkflowError (List Abi.Part)
  | [] => .ok []
  | named :: rest =>
    match advancedPipePart named with
    | .error e => .error e
    | .ok part =>
      match advancedPipeParts rest with
      | .error e => .error e
      | .ok parts => .ok (part :: parts)

/-- The arguments of `farm`: the payloads. -/
def farmArguments (calls : List NamedCall) : Bytes :=
  Abi.params [Abi.arrayPart (calls.map fun named => farmPart named.call)]

/-- The arguments of `advancedFarm`: the payloads with their clipboards. -/
def advancedFarmArguments (calls : List NamedCall) : Bytes :=
  Abi.params [Abi.arrayPart (calls.map fun named => advancedFarmPart named.call)]

/-- The arguments of `advancedPipe`: the whole calls, and the value. -/
def advancedPipeArguments (calls : List NamedCall) (value : Uint256) : Except WorkflowError Bytes :=
  match advancedPipeParts calls with
  | .error e => .error e
  | .ok parts => .ok (Abi.params [Abi.arrayPart parts, Abi.uintPart value])

/-- The arguments of an entry point. -/
def encodeArguments (encoder : Encoder) (calls : List NamedCall) (value : Uint256) :
    Except WorkflowError Bytes :=
  match encoder.kind with
  | .farm => .ok (farmArguments calls)
  | .advancedFarm => .ok (advancedFarmArguments calls)
  | .advancedPipe => advancedPipeArguments calls value

/-- What is decoded when results are. -/
def resultsName : String := "workflow results"

/-- The results in the return data of any entry point. -/
def decodeResults (data : Bytes) : Except WorkflowError (List Bytes) :=
  match Abi.bytesArray data with
  | .ok results => .ok results
  | .error e => .error (.decode resultsName e.message)

end Encoder

end CallWeave
