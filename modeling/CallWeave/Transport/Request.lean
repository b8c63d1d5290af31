import CallWeave.Json.Quantity
import CallWeave.Transport.Error

/-!
# Requests

A request asks what a call would do in the current state, without making it. A `Transport` answers requests;
what it answers may depend on its state, in which it can also keep a record.
-/

namespace CallWeave

/-- A call that is only simulated. -/
structure CallRequest where
  sender : Option Address
  target : Address
  /-- The calldata. -/
  input : Bytes
  /-- The currency sent along, if any. -/
  value : Option Uint256
deriving DecidableEq

namespace CallRequest

/-- A request without a sender and without currency. -/
def plain (target : Address) (input : Bytes) : CallRequest := ⟨none, target, input, none⟩

/-- A request as a record, its fields in the order of their names; a sender and a value stand there only
when there are any. -/
def toJson (request : CallRequest) : Json :=
  .object ((match request.sender with
      | some sender => [("from", sender.toJson)]
      | none => [])
    ++ [("input", bytesToJson request.input), ("to", request.target.toJson)]
    ++ (match request.value with
      | some value => [("value", uint256ToJson value)]
      | none => []))

end CallRequest

/-- A way to read the remote state. -/
structure Transport (σ : Type) where
  /-- The return data of a call. -/
  call : CallRequest → σ → Except TransportError Bytes × σ
  /-- What a call would cost. -/
  estimateCost : CallRequest → σ → Except TransportError Uint256 × σ

end CallWeave
