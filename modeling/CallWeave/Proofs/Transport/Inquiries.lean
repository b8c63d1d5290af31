import CallWeave.Proofs.Transport.Quotes

/-!
# Inquiries through a transport

What is sent through a transport can depend on nothing but the answers so far. An `Inquiry` is a tree that says what is
asked next for every answer, without any transport and any world. Followed through a transport, it sends blocks of
requests, each the same request that is repeated until it is settled, and two such courses ask the same as long as the
answers are the same (`Inquiry.Follows.asks_same`).
-/

namespace CallWeave

variable {σ : Type}

/-! ## Blocks -/

/-- A quoted call whose quote is read through a transport. -/
structure Probe (σ : Type) where
  name : String
  target : Option Address
  quote : TransportQuote σ
  encode : QuotedAmounts → Bytes
  clipboard : ClipboardSource

/-- The quoted call itself. -/
def Probe.call (probe : Probe σ) : QuotedCall σ :=
  ⟨probe.name, probe.target, probe.quote.quote, probe.encode, probe.clipboard⟩

/-- What is asked at an address in a plan: the places of the entries that lead there, from the outside in. -/
structure Read (σ : Type) where
  address : List Nat
  probe : Probe σ
  /-- The amount that the request is for. -/
  amount : Uint256

/-- The request that is sent. -/
def Read.request (asked : Read σ) (mode : RunMode) : CallRequest := asked.probe.quote.requestFor asked.amount mode

/-- The requests of one quoted call, which are all the same, with their answers. -/
structure Block (σ : Type) where
  asked : Read σ
  /-- The answers before the last one. -/
  earlier : List (Except TransportError Bytes)
  last : Except TransportError Bytes

namespace Block

/-- All answers, in order; there is one for each request. -/
def answers (block : Block σ) : List (Except TransportError Bytes) := block.earlier ++ [block.last]

/-- The requests with their answers. -/
def exchanges (mode : RunMode) (block : Block σ) : List Exchange :=
  block.answers.map (Exchange.mk (block.asked.request mode))

/-- All requests of a block are the same. -/
theorem map_exchanges {α : Type} (mode : RunMode) (block : Block σ) (note : CallRequest → α) :
    ((block.exchanges mode).map fun exchange => note exchange.request) =
      List.replicate block.answers.length (note (block.asked.request mode)) := by
  rw [exchanges, Exchange.map_note]

/-- The amount that the last answer holds, if it holds one: the word that is asked for, which has to end within the
data and within 64 bits. -/
def quoted? (block : Block σ) : Option Uint256 :=
  match block.last with
  | .ok returned =>
    let first := block.asked.probe.quote.resultWord.toNat * 32
    if first + 32 < Nat.pow 2 64 ∧ first + 32 ≤ returned.length then
      some (BitVec.ofNat 256 (fromBigEndian ((returned.drop first).take 32)))
    else none
  | .error _ => none

/-- The block of a workflow, seen from the workflow in which that stands at a place. -/
def under (place : Nat) (block : Block σ) : Block σ :=
  { block with asked := { block.asked with address := place :: block.asked.address } }

end Block

/-- Blocks that follow each other from an amount to an amount: each asks for the amount that the one before it was
answered with, and the first for the given one. There is no amount in the end when something went wrong. -/
inductive Threads : Uint256 → List (Block σ) → Option Uint256 → Prop
  | done {amount : Uint256} : Threads amount [] (some amount)
  | lost {amount : Uint256} : Threads amount [] none
  | read {block : Block σ} {blocks : List (Block σ)} {next : Uint256} {out : Option Uint256}
      (quoted : block.quoted? = some next) (rest : Threads next blocks out) :
      Threads block.asked.amount (block :: blocks) out
  | last {block : Block σ} : Threads block.asked.amount [block] none

namespace Threads

variable {amount middle : Uint256} {blocks more : List (Block σ)} {out : Option Uint256}

theorem append (first : Threads amount blocks (some middle)) (second : Threads middle more out) :
    Threads amount (blocks ++ more) out := by
  generalize reached : some middle = out' at first
  induction first with
  | done =>
    obtain rfl := Option.some.inj reached
    exact second
  | lost => cases reached
  | read quoted _ ih => exact .read quoted (ih reached)
  | last => cases reached

/-- Something may go wrong behind the blocks. -/
theorem toNone (threads : Threads amount blocks out) : Threads amount blocks none := by
  induction threads with
  | done => exact .lost
  | lost => exact .lost
  | read quoted _ ih => exact .read quoted ih
  | last => exact .last

theorem under (place : Nat) (threads : Threads amount blocks out) :
    Threads amount (blocks.map (Block.under place)) out := by
  induction threads with
  | done => exact .done
  | lost => exact .lost
  | @read block _ _ _ quoted _ ih =>
    show Threads (block.under place).asked.amount (block.under place :: _) _
    exact .read quoted ih
  | @last block =>
    show Threads (block.under place).asked.amount [block.under place] none
    exact .last

end Threads

/-! ## Inquiries -/

/-- Questions of which each may depend on the answers to those before it, and what comes of them in the end. -/
inductive Inquiry (σ α : Type) where
  | done (result : α)
  | read (asked : Read σ)
      (next : List (Except TransportError Bytes) → Except TransportError Bytes → Inquiry σ α)

namespace Inquiry

variable {α β : Type}

/-- Goes on with what comes of an inquiry. -/
def bind : Inquiry σ α → (α → Inquiry σ β) → Inquiry σ β
  | .done result, next => next result
  | .read asked behind, next => .read asked fun earlier last => (behind earlier last).bind next

/-- The inquiry of a workflow, seen from the workflow in which that stands at a place. -/
def under (place : Nat) : Inquiry σ α → Inquiry σ α
  | .done result => .done result
  | .read asked next =>
    .read { asked with address := place :: asked.address } fun earlier last => (next earlier last).under place

/-- An inquiry that is followed through a transport: the blocks that are sent, the result, and the state of the outside
world before and after. -/
inductive Follows (transport : Transport σ) (mode : RunMode) : Inquiry σ α → σ → List (Block σ) → α → σ → Prop
  | done {result : α} {outside : σ} : Follows transport mode (.done result) outside [] result outside
  | read {block : Block σ} {next : List (Except TransportError Bytes) → Except TransportError Bytes → Inquiry σ α}
      {blocks : List (Block σ)} {result : α} {outside middle after : σ}
      (settles : block.asked.probe.quote.retry.Settles block.earlier block.last)
      (exchanged : transport.Exchanges outside (block.exchanges mode) middle)
      (rest : Follows transport mode (next block.earlier block.last) middle blocks result after) :
      Follows transport mode (.read block.asked next) outside (block :: blocks) result after

namespace Follows

variable {transport transport' : Transport σ} {mode mode' : RunMode} {inquiry : Inquiry σ α}
  {blocks blocks' : List (Block σ)} {result result' : α} {outside outside' middle after after' : σ}

theorem bind {next : α → Inquiry σ β} {more : List (Block σ)} {last : β}
    (first : inquiry.Follows transport mode outside blocks result middle)
    (second : (next result).Follows transport mode middle more last after) :
    (inquiry.bind next).Follows transport mode outside (blocks ++ more) last after := by
  induction first with
  | done => exact second
  | read settles exchanged _ ih => exact .read settles exchanged (ih second)

theorem under (place : Nat) (follows : inquiry.Follows transport mode outside blocks result after) :
    (inquiry.under place).Follows transport mode outside (blocks.map (Block.under place)) result after := by
  induction follows with
  | done => exact .done
  | @read block next _ _ _ _ _ settles exchanged _ ih =>
    show Follows transport mode (.read (block.under place).asked fun earlier last => (next earlier last).under place) _
      (block.under place :: _) _ _
    exact .read settles exchanged ih

/-- All that is sent are the blocks. -/
theorem exchanges (follows : inquiry.Follows transport mode outside blocks result after) :
    transport.Exchanges outside (blocks.flatMap (Block.exchanges mode)) after := by
  induction follows with
  | done => exact .nil
  | read _ exchanged _ ih => exact exchanged.append ih

/-- Every block is settled. -/
theorem settles (follows : inquiry.Follows transport mode outside blocks result after) :
    ∀ block ∈ blocks, block.asked.probe.quote.retry.Settles block.earlier block.last := by
  induction follows with
  | done => simp
  | read settles _ _ ih => simpa using ⟨settles, ih⟩

/-- Followed in two ways, an inquiry asks the same as long as the answers are the same. -/
theorem asks_same (follows : inquiry.Follows transport mode outside blocks result after)
    (follows' : inquiry.Follows transport' mode' outside' blocks' result' after') {count : Nat}
    (same : (blocks.take count).map Block.answers = (blocks'.take count).map Block.answers) :
    (blocks.take (count + 1)).map Block.asked = (blocks'.take (count + 1)).map Block.asked := by
  induction follows generalizing outside' blocks' count with
  | done =>
    cases follows'
    rfl
  | @read block next _ _ _ _ _ settles exchanged rest ih =>
    generalize isRead : Inquiry.read block.asked next = inquiry' at follows'
    cases follows' with
    | done => cases isRead
    | @read block' next' _ _ _ _ _ settles' exchanged' rest' =>
      obtain ⟨asked, rfl⟩ := Inquiry.read.inj isRead
      cases count with
      | zero => simp [asked]
      | succ count =>
        rw [List.take_succ_cons, List.take_succ_cons, List.map_cons, List.map_cons] at same
        obtain ⟨answers, same⟩ := List.cons.inj same
        obtain ⟨earlier, last⟩ : block.earlier = block'.earlier ∧ [block.last] = [block'.last] :=
          List.append_inj' answers rfl
        rw [← earlier, ← List.singleton_inj.mp last] at rest'
        rw [List.take_succ_cons, List.take_succ_cons, List.map_cons, List.map_cons, asked, ih rest' same]

end Follows

end Inquiry

end CallWeave
