import CallWeave.Transport.Request

/-!
# Calls

A *prepared call* is what one step contributes to a sequence; an *outbound call* is a whole sequence behind
one entry point, ready to be submitted.
-/

namespace CallWeave

/-- The call of one step. -/
structure PreparedCall where
  /-- The contract called, where the entry point lets a step choose. -/
  target : Option Address
  /-- The calldata of the step. -/
  payload : Bytes
  /-- An encoded clipboard. -/
  clipboard : Option Bytes
deriving DecidableEq, Inhabited

/-- A call without a target and a clipboard. -/
def PreparedCall.plain (payload : Bytes) : PreparedCall := ⟨none, payload, none⟩

/-- A prepared call and the name of its step. -/
structure NamedCall where
  step : String
  call : PreparedCall
deriving DecidableEq

/-- A call that is ready to be submitted. -/
structure OutboundCall where
  target : Address
  /-- The name of the entry point. -/
  function : String
  /-- The four bytes that select the entry point. -/
  selector : Bytes
  /-- The encoded arguments. -/
  arguments : Bytes
  /-- The currency sent along. -/
  value : Uint256
deriving DecidableEq

namespace OutboundCall

/-- The selector and the arguments. -/
def calldata (call : OutboundCall) : Bytes := call.selector ++ call.arguments

/-- The request that simulates a call, from a given sender; no currency is not mentioned. -/
def toRequest (call : OutboundCall) (sender : Option Address) : CallRequest :=
  ⟨sender, call.target, call.calldata, if call.value = 0 then none else some call.value⟩

/-- The call as a step of another sequence. -/
def prepared (call : OutboundCall) : PreparedCall := ⟨some call.target, call.calldata, none⟩

end OutboundCall

end CallWeave
