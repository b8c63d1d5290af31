import CallWeave.Bytes.Keccak
import CallWeave.Config.Basic
import CallWeave.Generator.RawCall

/-!
# Quoted calls

A step whose limit follows from a quote and the tolerance of the run: the least output that is accepted, or
the largest input that is paid when the walk goes backward. The quoted amount becomes the running amount.

A quote may be read through a transport: a view call is simulated, tried again while its errors are transient,
and one word of what it returns is the quote. A word so far behind that 64 bits do not count to its end stops the
program.
-/

namespace CallWeave

/-- The expected output, or the required input while walking backward, of an amount. -/
abbrev Quote (σ : Type) := Uint256 → RunMode → σ → Except WorkflowError Uint256 × σ

/-- The amounts that a quoted call is encoded from. -/
structure QuotedAmounts where
  amountIn : Uint256
  quoted : Uint256
  /-- The quote adjusted by the tolerance. -/
  limit : Uint256
deriving DecidableEq

/-- A call whose limit follows from a quote. -/
structure QuotedCall (σ : Type) where
  name : String
  target : Option Address
  quote : Quote σ
  encode : QuotedAmounts → Bytes
  clipboard : ClipboardSource

namespace QuotedCall

variable {σ : Type}

/-- The limit of a quote. -/
def limit (mode : RunMode) (quoted : Uint256) (percent : Float) : Except SlippageError Uint256 :=
  if mode.isReversed then Slippage.pad quoted percent else Slippage.slip quoted percent

/-- The step of a quoted call, once the quote is known. -/
def step (call : QuotedCall σ) (amountIn quoted : Uint256) (percent : Float) (context : RunContext) :
    Except WorkflowError Step :=
  match limit context.mode quoted percent with
  | .error e => .error (.slippage e)
  | .ok limit =>
    match call.clipboard.resolve context with
    | .error e => .error e
    | .ok clipboard =>
      .ok (.ofCall call.name quoted ⟨call.target, call.encode ⟨amountIn, quoted, limit⟩, clipboard⟩)

/-- Asks for the tolerance first and for the quote then. -/
def run (call : QuotedCall σ) : StepRun σ := fun amount context outside =>
  match context.requireSlippage call.name with
  | .error e => (.error e, outside)
  | .ok percent =>
    match call.quote amount context.mode outside with
    | (.error e, after) => (.error e, after)
    | (.ok quoted, after) => ((call.step amount quoted percent context).map .step, after)

/-- A quoted call as a generator. -/
def generator (call : QuotedCall σ) : Generator σ := .leaf call.name call.run

end QuotedCall

/-- A quote that is read through a transport. -/
structure TransportQuote (σ : Type) where
  transport : Transport σ
  target : Address
  /-- The calldata of the view call. -/
  request : Uint256 → RunMode → Bytes
  retry : RetryPolicy
  /-- Which word of the return data is the quote. -/
  resultWord : UInt64

namespace TransportQuote

variable {σ : Type}

/-- The error after the last attempt: transient errors were tried as often as the policy allows. -/
def failure (exhausted : Exhausted TransportError) : TransportError :=
  if exhausted.last.isTransient then .retriesExhausted exhausted.attempts exhausted.last else exhausted.last

/-- The quote in some return data. The place of its word is computed with 64 bits, and a place beyond them is
computed no further. -/
def read (quote : TransportQuote σ) (returned : Bytes) : Except WorkflowError Uint256 :=
  let first := quote.resultWord.toNat * 32
  if Nat.pow 2 64 ≤ first then .error (.overflow "multiply")
  else if Nat.pow 2 64 ≤ first + 32 then .error (.overflow "add")
  else if first + 32 ≤ returned.length then
    .ok (BitVec.ofNat 256 (fromBigEndian ((returned.drop first).take 32)))
  else
    .error (.decode "quote" ("return data has " ++ toString returned.length ++ " bytes, need word "
      ++ toString quote.resultWord.toNat))

/-- The quote of an amount. -/
def quote (quote : TransportQuote σ) : Quote σ := fun amount mode outside =>
  let request := CallRequest.plain quote.target (quote.request amount mode)
  match quote.retry.run TransportError.isTransient (fun _ => quote.transport.call request) outside with
  | (.error exhausted, after) =>
    let source := failure exhausted
    (.error (.simulation ("quote from " ++ quote.target.toChecksum ++ " failed: " ++ source.message) source), after)
  | (.ok returned, after) => (quote.read returned, after)

end TransportQuote

end CallWeave
