import CallWeave.Generator.Quoted
import CallWeave.Proofs.Transport.Attempts
import CallWeave.Session.Transport

/-!
# What a quote asks

A quote that is read through a transport sends one request, again and again while the answers are transient errors
and the policy allows. What it then says is true of the last answer (`TransportQuote.quote_reports_last`): retries
are exhausted exactly if that answer is a transient error, and any other error is passed on as it is, however many
transient ones stood before it.

What goes over a transport is told by its `Transport.Exchanges`: the requests in order, each with its answer, from one
state of the outside world to another. A record that the transport keeps of its requests is then known as well
(`Transport.Exchanges.log_eq`).
-/

namespace CallWeave

variable {σ : Type}

/-! ## Exchanges -/

/-- A call that was sent and the answer to it. -/
structure Exchange where
  request : CallRequest
  answer : Except TransportError Bytes

/-- What is noted of one call that is sent again and again. -/
theorem Exchange.map_note {α : Type} (request : CallRequest) (answers : List (Except TransportError Bytes))
    (note : CallRequest → α) :
    ((answers.map (Exchange.mk request)).map fun exchange => note exchange.request) =
      List.replicate answers.length (note request) := by
  simp only [List.map_map, Function.comp_def]
  rw [List.map_const']

namespace Transport

/-- Calls that are sent one after another, with their answers, lead from one state of the outside world to another. -/
inductive Exchanges (transport : Transport σ) : σ → List Exchange → σ → Prop
  | nil {outside : σ} : Exchanges transport outside [] outside
  | cons {request : CallRequest} {outside last : σ} {behind : List Exchange}
      (rest : Exchanges transport (transport.call request outside).2 behind last) :
      Exchanges transport outside (⟨request, (transport.call request outside).1⟩ :: behind) last

/-- The outside world keeps a record of the calls that are sent. -/
def Logs {α : Type} (transport : Transport σ) (log : σ → List α) (note : CallRequest → α) : Prop :=
  ∀ request outside, log (transport.call request outside).2 = log outside ++ [note request]

namespace Exchanges

variable {transport : Transport σ} {outside middle last : σ} {exchanges more : List Exchange}

theorem append (first : transport.Exchanges outside exchanges middle) (second : transport.Exchanges middle more last) :
    transport.Exchanges outside (exchanges ++ more) last := by
  induction first with
  | nil => exact second
  | cons _ ih => exact .cons (ih second)

/-- One more call at the end. -/
theorem snoc (first : transport.Exchanges outside exchanges middle) (request : CallRequest) :
    transport.Exchanges outside (exchanges ++ [⟨request, (transport.call request middle).1⟩])
      (transport.call request middle).2 :=
  first.append (.cons .nil)

/-- A record of the calls grows by the calls. -/
theorem log_eq {α : Type} {log : σ → List α} {note : CallRequest → α} (logs : transport.Logs log note)
    (exchanged : transport.Exchanges outside exchanges last) :
    log last = log outside ++ exchanges.map fun exchange => note exchange.request := by
  induction exchanged with
  | nil => rw [List.map_nil, List.append_nil]
  | cons _ ih => rw [ih, logs, List.map_cons, List.append_assoc, List.singleton_append]

end Exchanges

end Transport

/-- A scripted transport keeps a record of its calls. -/
theorem Stage.logs_transport (name : String) :
    (Stage.transport name).Logs (fun stage => (stage name).log) .call := by
  intro request stage
  have logged : ((stage.take name (.call request)).2 name).log = (stage name).log ++ [.call request] := by
    simp [Stage.take, Stage.set]
  simp only [Stage.transport]
  split
  case h_1 taken => rw [taken] at logged; exact logged
  case h_2 taken => rw [taken] at logged; exact logged
  case h_3 taken => rw [taken] at logged; exact logged

/-! ## Attempts -/

/-- How a request came to its last answer under a policy: all answers before it are transient errors, they leave room
for it, and it is one itself only if no more attempts were allowed. -/
structure RetryPolicy.Settles (policy : RetryPolicy) (earlier : List (Except TransportError Bytes))
    (last : Except TransportError Bytes) : Prop where
  again : ∀ answer ∈ earlier, ∃ e, answer = .error e ∧ e.isTransient = true
  allowed : earlier.length + 1 ≤ max 1 policy.attempts.toNat
  ends : ∀ e, last = .error e → e.isTransient = true → earlier.length + 1 = max 1 policy.attempts.toNat

/-- The transient errors are those of the connection and the states in which an endpoint cannot answer. -/
theorem TransportError.isTransient_iff {e : TransportError} :
    e.isTransient = true ↔ (∃ text, e = .http text) ∨ ∃ code, e = .status code ∧ (code = 429 ∨ 500 ≤ code) := by
  cases e <;> simp [isTransient]

namespace RetryPolicy

variable (transport : Transport σ) (request : CallRequest) (outside : σ)

/-- The answers to the first attempts of a call. -/
def answersTo (attempts : Nat) : List (Except TransportError Bytes) :=
  (List.range' 1 attempts).map (outcome (fun _ => transport.call request) outside)

theorem length_answersTo (attempts : Nat) : (answersTo transport request outside attempts).length = attempts := by
  rw [answersTo, List.length_map, List.length_range']

theorem answersTo_succ (attempts : Nat) :
    answersTo transport request outside (attempts + 1) =
      answersTo transport request outside attempts ++
        [outcome (fun _ => transport.call request) outside (attempts + 1)] := by
  rw [answersTo, List.range'_1_concat, List.map_append, answersTo, List.map_singleton, Nat.add_comm 1]

/-- Each attempt sends the call once. -/
theorem exchanges_stateBehind (attempts : Nat) :
    transport.Exchanges outside ((answersTo transport request outside attempts).map (Exchange.mk request))
      (stateBehind (fun _ => transport.call request) outside attempts) := by
  induction attempts with
  | zero => exact .nil
  | succ attempts ih =>
    rw [answersTo_succ, List.map_append]
    exact ih.snoc request

/-- A call that is tried under a policy ends with an answer that settles it. -/
theorem exists_settles (policy : RetryPolicy) :
    ∃ earlier last after, policy.Settles earlier last ∧
      transport.Exchanges outside ((earlier ++ [last]).map (Exchange.mk request)) after ∧
      policy.run TransportError.isTransient (fun _ => transport.call request) outside =
        (last.mapError (Exhausted.mk (earlier.length + 1)), after) := by
  obtain ⟨k, ⟨⟨isPos, mayEnd⟩, isLeast⟩, answers⟩ :=
    policy.exists_isLeast TransportError.isTransient (fun _ => transport.call request) outside
  obtain ⟨before, rfl⟩ : ∃ before, k = before + 1 := ⟨k - 1, by omega⟩
  have allowed : before + 1 ≤ max 1 policy.attempts.toNat := isLeast ⟨le_max_left 1 _, .inr rfl⟩
  have exchanged := exchanges_stateBehind transport request outside (before + 1)
  rw [answersTo_succ] at exchanged
  refine ⟨answersTo transport request outside before, _, _, ⟨?_, ?_, ?_⟩, exchanged, ?_⟩
  · intro answer isEarlier
    obtain ⟨attempt, isIn, rfl⟩ := List.mem_map.mp isEarlier
    obtain ⟨isFrom, isBefore⟩ := List.mem_range'_1.mp isIn
    -- an outcome that is final would have ended the attempts
    have notFinal : ¬ IsFinal TransportError.isTransient
        (outcome (fun _ => transport.call request) outside attempt) := fun isFinal => by
      have := isLeast ⟨isFrom, .inl isFinal⟩
      omega
    cases answered : outcome (fun _ => transport.call request) outside attempt with
    | ok returned => simp [answered, IsFinal] at notFinal
    | error e => exact ⟨e, rfl, by simpa [answered, IsFinal] using notFinal⟩
  · rwa [length_answersTo]
  · intro e isLast isTransient
    rw [length_answersTo]
    refine mayEnd.resolve_left fun isFinal => ?_
    rw [isLast, IsFinal, isTransient] at isFinal
    cases isFinal
  · rw [answers, length_answersTo]

end RetryPolicy

/-! ## Quotes -/

namespace TransportQuote

/-- The call that a quote sends for an amount. -/
def requestFor (quote : TransportQuote σ) (amount : Uint256) (mode : RunMode) : CallRequest :=
  .plain quote.target (quote.request amount mode)

/-- What is read of a word that ends within 64 bits. -/
theorem read_of_near (quote : TransportQuote σ) (near : 32 * quote.resultWord.toNat + 32 < Nat.pow 2 64)
    (returned : Bytes) :
    quote.read returned =
      if 32 * quote.resultWord.toNat + 32 ≤ returned.length then
        .ok (BitVec.ofNat 256 (fromBigEndian ((returned.drop (32 * quote.resultWord.toNat)).take 32)))
      else
        .error (.decode "quote" ("return data has " ++ toString returned.length ++ " bytes, need word "
          ++ toString quote.resultWord.toNat)) := by
  have noMultiply : ¬Nat.pow 2 64 ≤ 32 * quote.resultWord.toNat :=
    Nat.not_le.mpr (Nat.lt_of_le_of_lt (Nat.le_add_right _ 32) near)
  have noAdd : ¬Nat.pow 2 64 ≤ 32 * quote.resultWord.toNat + 32 := Nat.not_le.mpr near
  simp only [read, Nat.mul_comm quote.resultWord.toNat, if_neg noMultiply, if_neg noAdd]

/-- A word that ends beyond 64 bits is not looked for in any data. -/
theorem read_of_far (quote : TransportQuote σ) (far : Nat.pow 2 64 ≤ 32 * quote.resultWord.toNat + 32)
    (returned : Bytes) : ∃ operation, quote.read returned = .error (.overflow operation) := by
  simp only [read, Nat.mul_comm quote.resultWord.toNat, if_pos far]
  split
  · exact ⟨_, rfl⟩
  · exact ⟨_, rfl⟩

/-- An amount is read where the word ends within 64 bits and within the data. -/
theorem read_eq_ok_iff {quote : TransportQuote σ} {returned : Bytes} {value : Uint256} :
    quote.read returned = .ok value ↔
      quote.resultWord.toNat * 32 + 32 < Nat.pow 2 64 ∧ quote.resultWord.toNat * 32 + 32 ≤ returned.length ∧
        BitVec.ofNat 256 (fromBigEndian ((returned.drop (quote.resultWord.toNat * 32)).take 32)) = value := by
  rw [Nat.mul_comm]
  by_cases near : 32 * quote.resultWord.toNat + 32 < Nat.pow 2 64
  · rw [quote.read_of_near near]
    split
    case isTrue inside => simp [near, inside]
    case isFalse beyond => exact ⟨nofun, fun ⟨_, inside, _⟩ => absurd inside beyond⟩
  · obtain ⟨operation, stops⟩ := quote.read_of_far (Nat.not_lt.mp near) returned
    rw [stops]
    exact ⟨nofun, fun ⟨isNear, _⟩ => absurd isNear near⟩

/-- What a quote says after some attempts, the last of which had an answer. -/
def settled (quote : TransportQuote σ) (attempts : Nat) : Except TransportError Bytes → Except WorkflowError Uint256
  | .ok returned => quote.read returned
  | .error e =>
    .error (.simulation ("quote from " ++ quote.target.toChecksum ++ " failed: " ++ (failure ⟨attempts, e⟩).message)
      (failure ⟨attempts, e⟩))

variable (quote : TransportQuote σ) (amount : Uint256) (mode : RunMode) (outside : σ)

/-- A quote sends its call until it is settled, and says what the last answer comes to. -/
theorem exists_quote_eq :
    ∃ earlier last after, quote.retry.Settles earlier last ∧
      quote.transport.Exchanges outside ((earlier ++ [last]).map (Exchange.mk (quote.requestFor amount mode))) after ∧
      quote.quote amount mode outside = (quote.settled (earlier.length + 1) last, after) := by
  obtain ⟨earlier, last, after, settles, exchanged, ran⟩ :=
    RetryPolicy.exists_settles quote.transport (quote.requestFor amount mode) outside quote.retry
  refine ⟨earlier, last, after, settles, exchanged, ?_⟩
  rw [TransportQuote.quote]
  simp only [requestFor] at ran
  rw [ran]
  cases last <;> rfl

/-- The call of a quote is sent some number of times, and never more often than the policy allows, counting no attempts
as one. All answers but the last are errors of the connection or states in which the endpoint cannot answer. What is
said rests on the last answer: return data is read, and an error makes the simulation fail. If that error is
transient, the attempts were all that are allowed, and the source is that they are exhausted, with their number and
the error; any other error is the source itself. -/
theorem quote_reports_last :
    ∃ (earlier : List (Except TransportError Bytes)) (last : Except TransportError Bytes) (after : σ),
      quote.transport.Exchanges outside
        ((earlier ++ [last]).map (Exchange.mk (.plain quote.target (quote.request amount mode)))) after ∧
      (quote.quote amount mode outside).2 = after ∧
      earlier.length + 1 ≤ max 1 quote.retry.attempts.toNat ∧
      (∀ answer ∈ earlier, ∃ e, answer = .error e ∧
        ((∃ text, e = .http text) ∨ ∃ code, e = .status code ∧ (code = 429 ∨ 500 ≤ code))) ∧
      (∀ returned, last = .ok returned → (quote.quote amount mode outside).1 = quote.read returned) ∧
      (∀ e, last = .error e → ∃ source,
        (quote.quote amount mode outside).1 = .error (.simulation
          ("quote from " ++ quote.target.toChecksum ++ " failed: " ++ source.message) (some source)) ∧
        (e.isTransient = true → earlier.length + 1 = max 1 quote.retry.attempts.toNat ∧
          source = .retriesExhausted (earlier.length + 1) e) ∧
        (e.isTransient = false → source = e)) ∧
      ∀ (α : Type) (log : σ → List α) (note : CallRequest → α), quote.transport.Logs log note →
        log after = log outside ++
          List.replicate (earlier.length + 1) (note (.plain quote.target (quote.request amount mode))) := by
  obtain ⟨earlier, last, after, settles, exchanged, said⟩ := quote.exists_quote_eq amount mode outside
  refine ⟨earlier, last, after, exchanged, by rw [said], settles.allowed, fun answer isEarlier => ?_, ?_, ?_, ?_⟩
  · obtain ⟨e, rfl, isTransient⟩ := settles.again answer isEarlier
    exact ⟨e, rfl, TransportError.isTransient_iff.mp isTransient⟩
  · rintro returned rfl
    rw [said]
    rfl
  · rintro e rfl
    refine ⟨failure ⟨earlier.length + 1, e⟩, by rw [said]; rfl, fun isTransient => ⟨?_, ?_⟩, fun isFinal => ?_⟩
    · exact settles.ends e rfl isTransient
    · rw [failure, if_pos isTransient]
    · rw [failure, if_neg (by simp [isFinal])]
  · intro α log note logs
    rw [exchanged.log_eq logs, Exchange.map_note, List.length_append, List.length_singleton]
    rfl

/-- An error that is final ends the attempts, and so does the policy; no attempts count as one. -/
example :
    let stage : Stage := Stage.empty.set "rpc"
      ⟨[.failed (.http "reset"), .failed (.status 503), .failed (.rpc 3 "reverted"), .returned []], []⟩
    let sent (attempts : UInt32) : Nat :=
      ((TransportQuote.quote ⟨Stage.transport "rpc", ⟨7⟩, fun _ _ => [], ⟨attempts, 0⟩, 0⟩ 1 .forward stage).2
        "rpc").log.length
    [sent 0, sent 1, sent 2, sent 3, sent 9] = [1, 1, 2, 3, 3] := by decide +kernel

end TransportQuote

end CallWeave
