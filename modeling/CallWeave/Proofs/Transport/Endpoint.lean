import CallWeave.Proofs.Codec.Octets
import CallWeave.Proofs.Json.Records
import CallWeave.Proofs.Json.RoundTrip
import CallWeave.Session.Transport
import CallWeave.Transport.JsonRpc
import Mathlib.Algebra.Ring.Int.Defs

/-!
# Operations on an endpoint

Each operation on an endpoint sends one request, and the answer to that request settles it. `Response.Carried` says
which bodies are responses and what they carry, `Settles` what comes of an operation for every answer: the status
comes first, then the error that the response carries, then its result. A run of operations is settled answer by
answer, whatever went wrong before (`sendAll_settled`), and the requests are numbered from one without a gap.
-/

namespace CallWeave

namespace JsonRpc

/-! ## Responses -/

/-- An error as it may be written: a code of 64 bits and a message. -/
inductive ErrorWritten : Json → TransportError → Prop
  | rpc {json : Json} {code : Int} {message : String}
    (fields : Json.Pair "code" "message" json (some (.int code)) (some (.string message)))
    (small : -(2 ^ 63) ≤ code ∧ code < 2 ^ 63) : ErrorWritten json (.rpc code message)

theorem errorOfJson?_eq_some_iff {json : Json} {e : TransportError} :
    errorOfJson? json = some e ↔ ErrorWritten json e := by
  rw [errorOfJson?]
  constructor
  · intro read
    split at read
    case h_1 code message fields =>
      split at read
      case isTrue small =>
        obtain rfl := Option.some.inj read
        exact .rpc (Json.fields?_eq_some_iff.mp fields) (by exact_mod_cast small)
      case isFalse => cases read
    case h_2 => cases read
  · rintro ⟨fields, small⟩
    rw [Json.fields?_eq_some_iff.mpr fields]
    exact if_pos (by exact_mod_cast small)

/-- What a response carries; null is nothing. -/
structure Response where
  result : Option Json
  error : Option TransportError

/-- A body is a response, and this is what it carries: a result that nests less than 127 levels deep, an error, both or
neither. -/
inductive Response.Carried (body : String) : Response → Prop
  | response {document : Json} {result error : Option Json} {response : Response}
    (parsed : Json.parse? body = some document) (fields : Json.Pair "result" "error" document result error)
    (isResult : Json.Maybe (fun json value => json.valueAt? 127 = some value) result response.result)
    (isError : Json.Maybe ErrorWritten error response.error) : Carried body response

variable {body : String} {response : Response}

/-- The error that a response carries is one of the endpoint. -/
theorem Response.Carried.exists_eq_rpc {result : Option Json} {e : TransportError}
    (carried : Response.Carried body ⟨result, some e⟩) : ∃ code message, e = .rpc code message := by
  cases carried with
  | response _ _ _ isError =>
    cases isError with
    | there _ written =>
      cases written with
      | rpc => exact ⟨_, _, rfl⟩

/-- The error comes before the result. -/
theorem resultOf_of_carried (carried : response.Carried body) :
    resultOf body =
      match response.error, response.result with
      | some e, _ => .error e
      | none, some value => .ok value
      | none, none => .error (.decode nothingCarried) := by
  obtain @⟨document, result, error, _, parsed, fields, isResult, isError⟩ := carried
  have isResult := (Json.optional?_eq_some_iff fun _ _ => Iff.rfl).mpr isResult
  have isError := (Json.optional?_eq_some_iff fun _ _ => errorOfJson?_eq_some_iff).mpr isError
  rw [resultOf, parsed, Option.bind_some, Json.fields?_eq_some_iff.mpr fields]
  simp only [isResult, isError]
  obtain ⟨_ | value, _ | e⟩ := response <;> rfl

/-- A body that is no response is malformed. -/
theorem resultOf_of_not_carried (none : ∀ response : Response, ¬ response.Carried body) :
    resultOf body = .error (.decode malformedBody) := by
  rw [resultOf]
  split
  case h_2 => rfl
  case h_1 result error read =>
    obtain ⟨document, parsed, fields⟩ := Option.bind_eq_some_iff.mp read
    have fields := Json.fields?_eq_some_iff.mp fields
    cases isResult : Json.optional? (Json.valueAt? · 127) result with
    | none => rfl
    | some value =>
      cases isError : Json.optional? errorOfJson? error with
      | none => cases value <;> rfl
      | some e =>
        refine absurd (.response parsed fields ?_ ?_) (none ⟨value, e⟩)
        · exact (Json.optional?_eq_some_iff fun _ _ => Iff.rfl).mp isResult
        · exact (Json.optional?_eq_some_iff fun _ _ => errorOfJson?_eq_some_iff).mp isError

/-! ## Operations -/

/-- What an operation replies. -/
inductive Reply where
  | returned (data : Bytes)
  | cost (amount : Uint256)
deriving DecidableEq

/-- The method of an operation. -/
def method : LoggedRequest → String
  | .call _ => "eth_call"
  | .estimateCost _ => "eth_estimateGas"

/-- A request as a parameter: its calldata and its target, in front of them who sends it and behind them the currency
sent along, if there is any. -/
def record (request : CallRequest) : Json :=
  .object (request.sender.toList.map (fun sender => ("from", .string (Hex.octets sender.bytes))) ++
    [("input", .string (Hex.octets request.input)), ("to", .string (Hex.octets request.target.bytes))] ++
    request.value.toList.map fun value => ("value", .string (Hex.quantity value.toNat)))

/-- The parameters of an operation; a call is made in the latest state. -/
def params : LoggedRequest → List Json
  | .call request => [record request, .string "latest"]
  | .estimateCost request => [record request]

/-- Its reply, if a result is one. -/
def reply? : LoggedRequest → Json → Option Reply
  | .call _, result => (bytesOfJson? result).map .returned
  | .estimateCost _, result => (uint256OfJson? result).map .cost

/-- How an answer settles an operation. -/
inductive Settles (asked : LoggedRequest) (answer : Answer) : Except TransportError Reply → Prop
  | refused (noSuccess : answer.status < 200 ∨ 300 ≤ answer.status) :
    Settles asked answer (.error (.status answer.status))
  | malformed (success : 200 ≤ answer.status ∧ answer.status < 300)
    (noResponse : ∀ response : Response, ¬ response.Carried answer.body) :
    Settles asked answer (.error (.decode malformedBody))
  | rpc {result : Option Json} {code : Int} {message : String} (success : 200 ≤ answer.status ∧ answer.status < 300)
    (carried : Response.Carried answer.body ⟨result, some (.rpc code message)⟩) :
    Settles asked answer (.error (.rpc code message))
  | nothing (success : 200 ≤ answer.status ∧ answer.status < 300)
    (carried : Response.Carried answer.body ⟨none, none⟩) : Settles asked answer (.error (.decode nothingCarried))
  | unexpected {result : Json} (success : 200 ≤ answer.status ∧ answer.status < 300)
    (carried : Response.Carried answer.body ⟨some result, none⟩) (noReply : reply? asked result = none) :
    Settles asked answer (.error (.decode unexpectedResult))
  | replied {result : Json} {reply : Reply} (success : 200 ≤ answer.status ∧ answer.status < 300)
    (carried : Response.Carried answer.body ⟨some result, none⟩) (isReply : reply? asked result = some reply) :
    Settles asked answer (.ok reply)

variable {asked : LoggedRequest} {answer : Answer}

theorem outcome_of_success {α : Type} {read? : Json → Option α} (success : 200 ≤ answer.status ∧ answer.status < 300) :
    outcome read? answer =
      match resultOf answer.body with
      | .error e => .error e
      | .ok result =>
        match read? result with
        | some value => .ok value
        | none => .error (.decode unexpectedResult) := by
  rw [outcome]
  exact if_neg (by omega)

/-- The outcome of an operation is the one that its answer settles it with. -/
theorem outcome_eq_iff {settled : Except TransportError Reply} :
    outcome (reply? asked) answer = settled ↔ Settles asked answer settled := by
  constructor
  · rintro rfl
    by_cases success : 200 ≤ answer.status ∧ answer.status < 300
    case neg =>
      have noSuccess : answer.status < 200 ∨ 300 ≤ answer.status := by omega
      rw [outcome, if_pos noSuccess]
      exact .refused noSuccess
    rw [outcome_of_success success]
    by_cases noResponse : ∀ response : Response, ¬ response.Carried answer.body
    case pos =>
      rw [resultOf_of_not_carried noResponse]
      exact .malformed success noResponse
    simp only [not_forall, not_not] at noResponse
    obtain ⟨⟨result, error⟩, carried⟩ := noResponse
    rw [resultOf_of_carried carried]
    cases error with
    | some e =>
      obtain ⟨code, message, rfl⟩ := carried.exists_eq_rpc
      exact .rpc success carried
    | none =>
      cases result with
      | none => exact .nothing success carried
      | some result =>
        cases isReply : reply? asked result with
        | none => simpa [isReply] using .unexpected success carried isReply
        | some reply => simpa [isReply] using .replied success carried isReply
  · rintro (noSuccess | ⟨success, noResponse⟩ | ⟨success, carried⟩ | ⟨success, carried⟩ | ⟨success, carried, noReply⟩ |
      ⟨success, carried, isReply⟩)
    · rw [outcome, if_pos noSuccess]
    · rw [outcome_of_success success, resultOf_of_not_carried noResponse]
    · rw [outcome_of_success success, resultOf_of_carried carried]
    · rw [outcome_of_success success, resultOf_of_carried carried]
    · rw [outcome_of_success success, resultOf_of_carried carried]
      simp only [noReply]
    · rw [outcome_of_success success, resultOf_of_carried carried]
      simp only [isReply]

/-- What settles an operation is transient only if it is a status. -/
theorem Settles.isTransient_eq_false {e : TransportError} (settles : Settles asked answer (.error e))
    (success : 200 ≤ answer.status ∧ answer.status < 300) : e.isTransient = false := by
  cases settles with
  | refused noSuccess => omega
  | malformed | rpc | nothing | unexpected => rfl

/-! ## Runs of operations -/

/-- Sends an operation. -/
def send (url : Url) : LoggedRequest → Line → Except TransportError Reply × Line
  | .call request, line => ((transport url).call request line).map (·.map .returned) id
  | .estimateCost request, line => ((transport url).estimateCost request line).map (·.map .cost) id

/-- Sends operations one after another, whatever comes of them. -/
def sendAll (url : Url) : List LoggedRequest → Line → List (Except TransportError Reply) × Line
  | [], line => ([], line)
  | asked :: rest, line =>
    let (settled, after) := send url asked line
    let (others, last) := sendAll url rest after
    (settled :: others, last)

theorem map_outcome {α β : Type} (f : α → β) (read? : Json → Option α) (answer : Answer) :
    (outcome read? answer).map f = outcome (fun result => (read? result).map f) answer := by
  rw [outcome, outcome]
  split
  · rfl
  · cases resultOf answer.body with
    | error e => rfl
    | ok result =>
      cases read : read? result <;> simp [read, Except.map]

/-- A request is sent as its record. -/
theorem toJson_eq_record (request : CallRequest) : request.toJson = record request := by
  simp only [CallRequest.toJson, record, bytesToJson, Address.toJson, Address.toHex, uint256ToJson, Hex.encode_eq_octets,
    Hex.encodeNat_eq_quantity]
  cases request.sender <;> cases request.value <;> rfl

/-- An operation is the request with its method and parameters, settled by the next answer. -/
theorem send_eq (url : Url) (asked : LoggedRequest) (line : Line) :
    send url asked line = operation url (method asked) (params asked) (reply? asked) line := by
  obtain ⟨nextId, _ | ⟨answer, answers⟩, posts⟩ := line
  · cases asked <;> rfl
  · cases asked <;> simp only [send, transport, operation, Prod.map, map_outcome, id, toJson_eq_record] <;> rfl

/-- What comes of an operation, for the answer to it or for none. -/
def settled (asked : LoggedRequest) : Option Answer → Except TransportError Reply
  | some answer => outcome (reply? asked) answer
  | none => .error (.http "no answer")

/-- The request of an operation under a number. -/
def post (url : Url) (id : Nat) (asked : LoggedRequest) : Post :=
  ⟨url.resource, requestBody id (method asked) (params asked)⟩

/-- Each operation takes one number and one answer, and leaves one request if there is an answer. -/
theorem sendAll_eq (url : Url) (asked : List LoggedRequest) (line : Line) :
    sendAll url asked line =
      (asked.mapIdx fun n one => settled one line.answers[n]?,
        ⟨line.nextId + asked.length, line.answers.drop asked.length,
          line.posts ++ (asked.take line.answers.length).mapIdx fun n one => post url (line.nextId + n) one⟩) := by
  induction asked generalizing line with
  | nil => simp [sendAll]
  | cons one rest ih =>
    obtain ⟨nextId, _ | ⟨answer, answers⟩, posts⟩ := line
    · simp [sendAll, send_eq, operation, ih, settled, Nat.add_assoc, Nat.add_comm 1]
    · simp [sendAll, send_eq, operation, ih, settled, post, List.mapIdx_cons, Nat.add_assoc, Nat.add_comm 1]

/-! ## Requests -/

theorem legible_record (request : CallRequest) : (record request).Legible := by
  refine .object ?_
  cases request.sender <;> cases request.value <;> simp [Json.Legible.string]

theorem legible_params (asked : LoggedRequest) : ∀ json ∈ params asked, json.Legible := by
  cases asked with
  | call request => simpa [params] using ⟨legible_record request, .string _⟩
  | estimateCost request => simpa [params] using legible_record request

/-- A request is a document of its number, its method and its parameters. -/
theorem parse?_post (url : Url) (id : Nat) (asked : LoggedRequest) :
    Json.parse? (post url id asked).body = some (.object [("id", .ofNat id), ("jsonrpc", .string "2.0"),
      ("method", .string (method asked)), ("params", .array (params asked))]) := by
  refine Json.parse?_compact (.object ?_)
  simp only [List.forall_mem_cons]
  exact ⟨.int _, .string _, .string _, .array (legible_params asked), List.forall_mem_nil _⟩

/-- Operations on an endpoint are numbered from one and send one request each. The request of each has its number, its
method and its parameters, and the answer to it, whatever stands in that and in all others, settles the operation: by
its status if that is no success, as malformed if the body is no response, by the error that the response carries even
beside a result, and else by its result, which has to be there and to be of the kind that was asked for. So an answer
with a successful status never leaves a transient error. An operation to which no answer comes fails. -/
theorem sendAll_settled (url : Url) (asked : List LoggedRequest) (answers : List Answer) :
    let ran := sendAll url asked (.opened answers)
    (ran.1.length = asked.length ∧ ran.2.nextId = asked.length + 1 ∧ ran.2.answers = answers.drop asked.length ∧
      ran.2.posts.length = min asked.length answers.length) ∧
    (∀ (n : Nat) one answer, asked[n]? = some one → answers[n]? = some answer →
      (∃ post, ran.2.posts[n]? = some post ∧ post.resource = url.resource ∧
        Json.parse? post.body = some (.object [("id", .ofNat (n + 1)), ("jsonrpc", .string "2.0"),
          ("method", .string (method one)), ("params", .array (params one))])) ∧
      (∀ settled, ran.1[n]? = some settled ↔ Settles one answer settled) ∧
      (200 ≤ answer.status → answer.status < 300 → ∀ e, ran.1[n]? = some (.error e) → e.isTransient = false)) ∧
    ∀ (n : Nat) one, asked[n]? = some one → answers[n]? = none →
      ∃ text, ran.1[n]? = some (Except.error (TransportError.http text)) := by
  intro ran
  have all : ran = _ := sendAll_eq url asked (.opened answers)
  have outcomes : ran.1 = asked.mapIdx fun n one => settled one answers[n]? := by rw [all]; rfl
  have posts : ran.2.posts = (asked.take answers.length).mapIdx fun n one => post url (1 + n) one := by
    rw [all]
    exact List.nil_append _
  refine ⟨⟨?_, ?_, by rw [all]; rfl, ?_⟩, fun n one answer isAsked isAnswer => ?_, fun n one isAsked noAnswer => ?_⟩
  · rw [outcomes, List.length_mapIdx]
  · rw [all]
    exact Nat.add_comm 1 _
  · rw [posts, List.length_mapIdx, List.length_take, Nat.min_comm]
  · have replied : ran.1[n]? = some (outcome (reply? one) answer) := by
      rw [outcomes, List.getElem?_mapIdx, isAsked, Option.map_some, isAnswer]
      rfl
    have settles (settled : Except TransportError Reply) :
        some (outcome (reply? one) answer) = some settled ↔ Settles one answer settled := by
      rw [Option.some.injEq, outcome_eq_iff]
    rw [replied]
    refine ⟨⟨post url (1 + n) one, ?_, rfl, ?_⟩, settles, fun isLow isHigh e failed => ?_⟩
    · have isThere : n < answers.length := (List.getElem?_eq_some_iff.mp isAnswer).1
      rw [posts, List.getElem?_mapIdx, List.getElem?_take_of_lt isThere, isAsked, Option.map_some]
    · rw [parse?_post, Nat.add_comm]
    · exact ((settles _).mp failed).isTransient_eq_false ⟨isLow, isHigh⟩
  · refine ⟨"no answer", ?_⟩
    rw [outcomes, List.getElem?_mapIdx, isAsked, Option.map_some, noAnswer]
    rfl

/-- An endpoint with a path. -/
def nodeUrl : Url := ⟨"http", "", .domain "node", some 8545, ["v1"], none, none⟩

/-- Four operations. -/
def fourOperations : List LoggedRequest :=
  [.call (.plain ⟨7⟩ [1, 2]), .estimateCost (.plain ⟨8⟩ []), .call ⟨some ⟨9⟩, ⟨8⟩, [3], some 5⟩,
    .estimateCost (.plain ⟨8⟩ [])]

/-- A response that carries an error beside a result. -/
def bothCarried : String :=
  "\x7b\"result\":\"0x05\",\"error\":\x7b\"code\":-3,\"message\":\"no\"\x7d\x7d"

/-- A response that carries a result. -/
def resultCarried : String := "\x7b\"error\":null,\"result\":\"0x0a\"\x7d"

/-- Three answers, the first of an endpoint that is busy. -/
def threeAnswers : List Answer := [⟨503, resultCarried⟩, ⟨200, bothCarried⟩, ⟨299, resultCarried⟩]

theorem carried_bothCarried : Response.Carried bothCarried ⟨some (.string "0x05"), some (.rpc (-3) "no")⟩ := by
  have parsed : Json.parse? bothCarried = some (.object [("result", .string "0x05"),
    ("error", .object [("code", .int (-3)), ("message", .string "no")])]) := by rfl
  exact .response parsed (Json.fields?_eq_some_iff.mp rfl) (.there nofun rfl)
    (.there nofun (errorOfJson?_eq_some_iff.mp rfl))

theorem carried_resultCarried : Response.Carried resultCarried ⟨some (.string "0x0a"), none⟩ := by
  have parsed : Json.parse? resultCarried = some (.object [("error", .null), ("result", .string "0x0a")]) := by rfl
  exact .response parsed (Json.fields?_eq_some_iff.mp rfl) (.there nofun rfl) .null

/-- What goes wrong with one operation is its own, and the last one waits in vain. -/
theorem fourOperations_settled :
    let ran := sendAll nodeUrl fourOperations (.opened threeAnswers)
    ran.2.nextId = 5 ∧ ran.2.posts.length = 3 ∧ ran.1[0]? = some (.error (.status 503)) ∧
      ran.1[1]? = some (.error (.rpc (-3) "no")) ∧ ran.1[2]? = some (.ok (.returned [10])) ∧
      (∃ post, ran.2.posts[2]? = some post ∧ post.resource = "/v1" ∧
        Json.parse? post.body = some (.object [("id", .ofNat 3), ("jsonrpc", .string "2.0"),
          ("method", .string "eth_call"),
          ("params", .array [.object [("from", .string "0x0000000000000000000000000000000000000009"),
            ("input", .string "0x03"), ("to", .string "0x0000000000000000000000000000000000000008"),
            ("value", .string "0x5")], .string "latest"])])) ∧
      ∃ text, ran.1[3]? = some (Except.error (TransportError.http text)) := by
  obtain ⟨⟨-, numbered, -, sent⟩, settles, unanswered⟩ := sendAll_settled nodeUrl fourOperations threeAnswers
  obtain ⟨-, busy, -⟩ := settles 0 _ _ rfl rfl
  obtain ⟨-, refused, -⟩ := settles 1 _ _ rfl rfl
  obtain ⟨posted, replied, -⟩ := settles 2 _ _ rfl rfl
  exact ⟨numbered, sent, (busy _).mpr (.refused (by decide)),
    (refused _).mpr (.rpc (by decide) carried_bothCarried),
    (replied _).mpr (.replied (by decide) carried_resultCarried rfl), posted, unanswered 3 _ rfl rfl⟩

end JsonRpc

end CallWeave
