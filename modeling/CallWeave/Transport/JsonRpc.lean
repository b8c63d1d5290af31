import CallWeave.Json.Reader
import CallWeave.Json.Record
import CallWeave.Json.Writer
import CallWeave.Transport.Request
import CallWeave.Url.Basic

/-!
# JSON-RPC

Requests over HTTP. Each operation sends exactly one request, numbered from one, and is settled by the one
answer to it: the status first, then whether the body is a response at all, then the error it carries, then
its result. Nothing here is sent twice.
-/

namespace CallWeave.JsonRpc

/-- Reads the URL of an endpoint. -/
def endpoint (hosts : Url.HostParser) (url : String) : Except TransportError Url :=
  match Url.parse hosts (Text.trim url) with
  | .error e => .error (.invalidUrl url e.message)
  | .ok (.other scheme) => .error (.invalidUrl url ("unsupported scheme '" ++ scheme ++ "'"))
  | .ok (.special parsed) =>
    if parsed.scheme = "http" ∨ parsed.scheme = "https" then .ok parsed
    else .error (.invalidUrl url ("unsupported scheme '" ++ parsed.scheme ++ "'"))

/-- An HTTP answer. -/
structure Answer where
  status : Nat
  body : String
deriving DecidableEq

/-- An HTTP request: a posted JSON text. -/
structure Post where
  /-- Path and query. -/
  resource : String
  body : String
deriving DecidableEq

/-- The first line of a request. -/
def Post.line (post : Post) : String := "POST " ++ post.resource

/-- What the body of every request is said to be. -/
def contentType : String := "application/json"

/-- The text of a request. -/
def requestBody (id : Nat) (method : String) (params : List Json) : String :=
  (Json.object [("id", .ofNat id), ("jsonrpc", .string "2.0"), ("method", .string method),
    ("params", .array params)]).compact

/-- The error that a response carries. -/
def errorOfJson? (json : Json) : Option TransportError :=
  match json.fields? ["code", "message"] with
  | some [some (.int code), some (.string message)] =>
    if -(Nat.pow 2 63 : Int) ≤ code ∧ code < Nat.pow 2 63 then some (.rpc code message) else none
  | _ => none

/-- What is said about a response that carries nothing. -/
def nothingCarried : String := "response carries neither result nor error"

/-- What is said about a body that is no response. -/
def malformedBody : String := "malformed response"

/-- What is said about a result of another kind than was asked for. -/
def unexpectedResult : String := "unexpected result"

/-- The result that a body carries. An error beside it comes first. -/
def resultOf (body : String) : Except TransportError Json :=
  match (Json.parse? body).bind (Json.fields? ["result", "error"]) with
  | some [result, error] =>
    match Json.optional? (Json.valueAt? · 127) result, Json.optional? errorOfJson? error with
    | some _, some (some e) => .error e
    | some (some value), some none => .ok value
    | some none, some none => .error (.decode nothingCarried)
    | _, _ => .error (.decode malformedBody)
  | _ => .error (.decode malformedBody)

/-- The outcome of an operation whose result is read by `read?`. -/
def outcome {α : Type} (read? : Json → Option α) (answer : Answer) : Except TransportError α :=
  if answer.status < 200 ∨ 300 ≤ answer.status then .error (.status answer.status)
  else match resultOf answer.body with
    | .error e => .error e
    | .ok result =>
      match read? result with
      | some value => .ok value
      | none => .error (.decode unexpectedResult)

/-- A line to an endpoint: the requests sent so far and the answers that are still to come. -/
structure Line where
  /-- The number of the next request. -/
  nextId : Nat
  answers : List Answer
  /-- The requests that were answered, in order. -/
  posts : List Post

/-- A line over which nothing has been sent. -/
def Line.opened (answers : List Answer) : Line := ⟨1, answers, []⟩

/-- Sends one request and settles it; when no answer comes, the request is lost. -/
def operation {α : Type} (url : Url) (method : String) (params : List Json) (read? : Json → Option α)
    (line : Line) : Except TransportError α × Line :=
  match line.answers with
  | [] => (.error (.http "no answer"), { line with nextId := line.nextId + 1 })
  | answer :: answers =>
    (outcome read? answer,
      ⟨line.nextId + 1, answers, line.posts ++ [⟨url.resource, requestBody line.nextId method params⟩]⟩)

/-- The transport behind an endpoint. -/
def transport (url : Url) : Transport Line where
  call request := operation url "eth_call" [request.toJson, .string "latest"] bytesOfJson?
  estimateCost request := operation url "eth_estimateGas" [request.toJson] uint256OfJson?

end CallWeave.JsonRpc
