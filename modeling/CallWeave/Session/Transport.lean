import CallWeave.Transport.Request

/-!
# Scripted transports

Transports that answer from a script, one answer for each request, and keep a log of what they were asked.
They stand in for an endpoint where a run has to be repeatable. A `Stage` holds any number of them by name.
-/

namespace CallWeave

/-- One answer of a script. -/
inductive ScriptedAnswer where
  | returned (data : Bytes)
  | cost (amount : Uint256)
  | failed (error : TransportError)

/-- What a transport was asked. -/
inductive LoggedRequest where
  | call (request : CallRequest)
  | estimateCost (request : CallRequest)
deriving DecidableEq

/-- A script and the log of its use. -/
structure ScriptedTransport where
  /-- The answers that are still to come. -/
  answers : List ScriptedAnswer
  log : List LoggedRequest

/-- Scripted transports by name. -/
abbrev Stage := String → ScriptedTransport

namespace Stage

/-- No transport has anything to answer. -/
def empty : Stage := fun _ => ⟨[], []⟩

/-- The stage with the script of one transport replaced. -/
def set (stage : Stage) (name : String) (transport : ScriptedTransport) : Stage :=
  fun other => if other = name then transport else stage other

/-- The error of a transport without an answer of the kind asked for. -/
def exhausted : TransportError := .http "script exhausted"

/-- Logs a request and takes the next answer. -/
def take (stage : Stage) (name : String) (request : LoggedRequest) : Option ScriptedAnswer × Stage :=
  let transport := stage name
  (transport.answers.head?, stage.set name ⟨transport.answers.drop 1, transport.log ++ [request]⟩)

/-- One of the transports of a stage. -/
def transport (name : String) : Transport Stage where
  call request stage :=
    match stage.take name (.call request) with
    | (some (.returned data), after) => (.ok data, after)
    | (some (.failed e), after) => (.error e, after)
    | (_, after) => (.error exhausted, after)
  estimateCost request stage :=
    match stage.take name (.estimateCost request) with
    | (some (.cost amount), after) => (.ok amount, after)
    | (some (.failed e), after) => (.error e, after)
    | (_, after) => (.error exhausted, after)

end Stage

end CallWeave
