import CallWeave.Bytes.BigEndian

/-!
# Transport errors

What can go wrong between a request and its answer. An error is *transient* when the same request may
succeed if it is sent again: the connection failed, the endpoint limits its rate or is broken. An error that
the endpoint reports about the call itself is an answer and will not change.
-/

namespace CallWeave

/-- Why a request was not answered. -/
inductive TransportError where
  | invalidUrl (url reason : String)
  | http (message : String)
  | status (code : Nat)
  | rpc (code : Int) (message : String)
  | decode (message : String)
  /-- All attempts failed; `last` is the error of the last one. -/
  | retriesExhausted (attempts : Nat) (last : TransportError)
deriving DecidableEq

namespace TransportError

/-- The text of an error. -/
def message : TransportError → String
  | .invalidUrl url reason => "invalid rpc url '" ++ url ++ "': " ++ reason
  | .http text => "http request failed: " ++ text
  | .status code => "rpc endpoint returned http status " ++ toString code
  | .rpc code text => "rpc error " ++ toString code ++ ": " ++ text
  | .decode text => "failed to decode rpc response: " ++ text
  | .retriesExhausted attempts last =>
    "gave up after " ++ toString attempts ++ " attempt(s): " ++ last.message

/-- Whether sending the request again could help. -/
def isTransient : TransportError → Bool
  | .http _ => true
  | .status code => code == 429 || 500 ≤ code
  | _ => false

end TransportError

end CallWeave
