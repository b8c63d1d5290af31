import CallWeave.Proofs.Build.Visits
import CallWeave.Proofs.Transport.Inquiries

/-!
# The reads of a build

A build of quoted calls that read through one transport sends its requests one after another. They form blocks, one for
each quoted call that is asked and knows the tolerance: the same request, repeated until it is settled. The blocks stand
in the order of the walk, down into nested workflows where these stand, and each asks for the amount that the turns
before it left (`Workflow.reads_in_walk_order`).

For this, each generator is given an inquiry that its runs follow in every world (`Generator.HasInquiry`). A quoted call
asks one question, a turn asks what its generator asks, and a workflow asks what its turns ask, one after another.
-/

namespace CallWeave

variable {σ : Type}

/-! ## Generators that read -/

/-- Quoted calls that read through a transport, and workflows of such, to any depth. -/
inductive Generator.ReadsOver (transport : Transport σ) : Generator σ → Prop
  | probe (probe : Probe σ) (isOver : probe.quote.transport = transport) : ReadsOver transport probe.call.generator
  | nested {cell : CellId} {name : String} {encoder : Encoder} {entries : List (Entry (Generator σ))}
      (inside : ∀ entry ∈ entries, ReadsOver transport entry.generator) :
      ReadsOver transport (.nested cell name encoder entries)

/-- A workflow of quoted calls that read through one transport, to any depth. -/
def Workflow.ReadsOver (workflow : Workflow σ) (transport : Transport σ) : Prop :=
  ∀ entry ∈ workflow.entries, entry.generator.ReadsOver transport

/-! ## Blocks and visits -/

/-- Blocks belong to the generators that are asked: they stand in the order of the walk, and there is one for each
that is asked, if the tolerance is known, and none else. -/
structure Accounts (purpose : Purpose) (visits : List Nat → Visit σ → Prop) (blocks : List (Block σ)) : Prop where
  inOrder : blocks.Pairwise fun one other => purpose.mode.Behind one.asked.address other.asked.address
  visited : ∀ block ∈ blocks, purpose.data.slippage.isSome = true ∧ ∃ context before,
    visits block.asked.address ⟨block.asked.probe.call.run, block.asked.amount, context, before⟩
  complete : purpose.data.slippage.isSome = true → ∀ address visit, visits address visit →
    ∃ block ∈ blocks, block.asked.address = address ∧ block.asked.amount = visit.amount ∧
      block.asked.probe.call.run = visit.run

namespace Accounts

variable {purpose : Purpose} {visits others : List Nat → Visit σ → Prop} {blocks more : List (Block σ)}

/-- No block for nobody. -/
theorem nil (none : ∀ address visit, ¬ visits address visit) : Accounts purpose visits [] :=
  ⟨.nil, by simp, fun _ address visit isVisit => absurd isVisit (none address visit)⟩

theorem congr (same : ∀ address visit, visits address visit ↔ others address visit)
    (accounts : Accounts purpose visits blocks) : Accounts purpose others blocks where
  inOrder := accounts.inOrder
  visited block isIn := by
    obtain ⟨known, context, before, visit⟩ := accounts.visited block isIn
    exact ⟨known, context, before, (same _ _).mp visit⟩
  complete known address visit isVisit := accounts.complete known address visit ((same _ _).mpr isVisit)

theorem append (first : Accounts purpose visits blocks) (second : Accounts purpose others more)
    (apart : ∀ one other visit visit', visits one visit → others other visit' →
      purpose.mode.Behind one other) :
    Accounts purpose (fun address visit => visits address visit ∨ others address visit) (blocks ++ more) where
  inOrder := by
    refine List.pairwise_append.mpr ⟨first.inOrder, second.inOrder, fun one isOne other isOther => ?_⟩
    obtain ⟨-, _, _, visit⟩ := first.visited one isOne
    obtain ⟨-, _, _, visit'⟩ := second.visited other isOther
    exact apart _ _ _ _ visit visit'
  visited block isIn := by
    rcases List.mem_append.mp isIn with isFirst | isSecond
    · obtain ⟨known, context, before, visit⟩ := first.visited block isFirst
      exact ⟨known, context, before, .inl visit⟩
    · obtain ⟨known, context, before, visit⟩ := second.visited block isSecond
      exact ⟨known, context, before, .inr visit⟩
  complete known address visit isVisit := by
    rcases isVisit with isFirst | isSecond
    · obtain ⟨block, isIn, same⟩ := first.complete known address visit isFirst
      exact ⟨block, List.mem_append_left _ isIn, same⟩
    · obtain ⟨block, isIn, same⟩ := second.complete known address visit isSecond
      exact ⟨block, List.mem_append_right _ isIn, same⟩

/-- Seen from the workflow in which another stands at a place. -/
theorem under (place : Nat) (accounts : Accounts purpose visits blocks) :
    Accounts purpose (fun address visit => ∃ inside, address = place :: inside ∧ visits inside visit)
      (blocks.map (Block.under place)) where
  inOrder := by
    refine List.pairwise_map.mpr (accounts.inOrder.imp fun isLater => ?_)
    exact .inside isLater
  visited := by
    intro block isIn
    obtain ⟨inner, isInner, rfl⟩ := List.mem_map.mp isIn
    obtain ⟨known, context, before, visit⟩ := accounts.visited inner isInner
    exact ⟨known, context, before, _, rfl, visit⟩
  complete := by
    rintro known address visit ⟨inside, rfl, isVisit⟩
    obtain ⟨block, isIn, rfl, same⟩ := accounts.complete known inside visit isVisit
    exact ⟨block.under place, List.mem_map_of_mem isIn, rfl, same⟩

end Accounts

/-! ## The inquiry of a generator -/

/-- A part of a build follows an inquiry: the blocks that are sent belong to the generators that are asked in it, and
they lead from the amount at its beginning to the one that it leaves. -/
structure Inquiry.Explains {α : Type} (inquiry : Inquiry σ (Except WorkflowError α)) (transport : Transport σ)
    (purpose : Purpose) (visits : List Nat → Visit σ → Prop) (amount : Uint256) (before : World σ)
    (outcome : Except WorkflowError α × World σ) (left : α → Uint256) (blocks : List (Block σ)) : Prop where
  follows : inquiry.Follows transport purpose.mode before.outside blocks outcome.1 outcome.2.outside
  accounts : Accounts purpose visits blocks
  threads : Threads amount blocks (outcome.1.toOption.map left)

/-- The runs of a generator follow an inquiry, which knows of no world. -/
def Generator.HasInquiry (transport : Transport σ) (purpose : Purpose) (generator : Generator σ) : Prop :=
  ∀ amount context, context.mode = purpose.mode → context.data = purpose.data →
    ∃ inquiry : Inquiry σ (Except WorkflowError BuiltStep), ∀ world, ∃ blocks,
      inquiry.Explains transport purpose (generator.Visits purpose amount context world) amount world
        (generator.run purpose amount context world) BuiltStep.amountOut blocks

/-- What a quoted call comes to when its request is settled. -/
def Probe.settled (probe : Probe σ) (amount : Uint256) (percent : Float) (context : RunContext) (attempts : Nat)
    (last : Except TransportError Bytes) : Except WorkflowError BuiltStep :=
  match probe.quote.settled attempts last with
  | .error e => .error e
  | .ok quoted => (probe.call.step amount quoted percent context).map .own

/-- A step leaves the quoted amount. -/
theorem QuotedCall.step_amountOut {call : QuotedCall σ} {amountIn quoted : Uint256} {percent : Float}
    {context : RunContext} {step : Step} (made : call.step amountIn quoted percent context = .ok step) :
    step.amountOut = quoted := by
  rw [QuotedCall.step] at made
  split at made
  · cases made
  · split at made
    · cases made
    · obtain rfl := Except.ok.inj made
      rfl

/-- A block leaves the amount that it was answered with. -/
theorem Probe.threads_settled (block : Block σ) (percent : Float) (context : RunContext) :
    Threads block.asked.amount [block]
      ((block.asked.probe.settled block.asked.amount percent context (block.earlier.length + 1)
        block.last).toOption.map BuiltStep.amountOut) := by
  rw [settled]
  split
  · exact .last
  case h_2 quoted isSettled =>
    have isQuoted : block.quoted? = some quoted := by
      rw [Block.quoted?]
      cases answered : block.last with
      | error e =>
        rw [answered] at isSettled
        cases isSettled
      | ok returned =>
        rw [answered, TransportQuote.settled] at isSettled
        obtain ⟨near, inside, rfl⟩ := TransportQuote.read_eq_ok_iff.mp isSettled
        exact if_pos ⟨near, inside⟩
    cases made : block.asked.probe.call.step block.asked.amount quoted percent context with
    | error e => exact .last
    | ok step =>
      refine .read isQuoted ?_
      show Threads quoted [] (some step.amountOut)
      rw [QuotedCall.step_amountOut made]
      exact .done

namespace Probe

variable (probe : Probe σ) (purpose : Purpose) (amount : Uint256) {context : RunContext}

/-- Without a tolerance nothing is asked. -/
theorem run_of_none (unknown : context.data.slippage = none) (world : World σ) :
    probe.call.generator.run purpose amount context world =
      (.error (.missingRunData probe.name "slippage"), world) := by
  simp only [QuotedCall.generator, Generator.run, QuotedCall.run, RunContext.requireSlippage, unknown]
  rfl

/-- With a tolerance the request is sent until it is settled. -/
theorem run_of_some {percent : Float} (known : context.data.slippage = some percent) (world : World σ) :
    ∃ earlier last after, probe.quote.retry.Settles earlier last ∧
      probe.quote.transport.Exchanges world.outside
        ((earlier ++ [last]).map (Exchange.mk (probe.quote.requestFor amount context.mode))) after ∧
      probe.call.generator.run purpose amount context world =
        (probe.settled amount percent context (earlier.length + 1) last, ⟨world.cells, after⟩) := by
  obtain ⟨earlier, last, after, settles, exchanged, said⟩ :=
    probe.quote.exists_quote_eq amount context.mode world.outside
  refine ⟨earlier, last, after, settles, exchanged, ?_⟩
  have quote : probe.call.quote amount context.mode world.outside = _ := said
  simp only [QuotedCall.generator, Generator.run, QuotedCall.run, RunContext.requireSlippage, known, quote, settled]
  cases probe.quote.settled (earlier.length + 1) last with
  | error e => rfl
  | ok quoted =>
    simp only
    cases probe.call.step amount quoted percent context <;> rfl

/-- A quoted call asks one question, if it knows the tolerance. -/
theorem hasInquiry : probe.call.generator.HasInquiry probe.quote.transport purpose := by
  intro amount context mode data
  cases known : purpose.data.slippage with
  | none =>
    refine ⟨.done (.error (.missingRunData probe.name "slippage")), fun world => ⟨[], ?_, ?_, ?_⟩⟩
    · rw [run_of_none probe purpose amount (data ▸ known)]
      exact .done
    · exact ⟨.nil, by simp, fun isKnown => by simp [known] at isKnown⟩
    · rw [run_of_none probe purpose amount (data ▸ known)]
      exact .lost
  | some percent =>
    let asked : Read σ := ⟨[], probe, amount⟩
    refine ⟨.read asked fun earlier last => .done (probe.settled amount percent context (earlier.length + 1) last),
      fun world => ?_⟩
    obtain ⟨earlier, last, after, settles, exchanged, ran⟩ :=
      probe.run_of_some purpose amount (data ▸ known) world
    rw [mode] at exchanged
    let block : Block σ := ⟨asked, earlier, last⟩
    refine ⟨[block], ?_, ⟨List.pairwise_singleton .., ?_, ?_⟩, ?_⟩
    · rw [ran]
      show Inquiry.Follows _ _ (.read block.asked _) _ [block] _ _
      exact .read settles exchanged .done
    · intro other isIn
      obtain rfl := List.mem_singleton.mp isIn
      exact ⟨by simp [known], context, world, rfl, rfl⟩
    · rintro - address visit ⟨rfl, rfl⟩
      exact ⟨block, List.mem_singleton_self block, rfl, rfl, rfl⟩
    · rw [ran]
      exact threads_settled block percent context

end Probe

/-- What is recorded of an answer passes on the amount of the step, or nothing. -/
theorem Threads.recordAnswer {purpose : Purpose} {answer : Except WorkflowError BuiltStep} {amount : Uint256}
    {blocks : List (Block σ)} (threads : Threads amount blocks (answer.toOption.map BuiltStep.amountOut))
    (name step : String) (options : StepOptions) (past : List Recorded) :
    Threads amount blocks ((purpose.recordAnswer name step options past answer).toOption.map Prod.fst) := by
  cases answer with
  | error e => exact threads
  | ok made =>
    rw [Purpose.recordAnswer]
    cases purpose.accept name (past ++ [(made, options)]) with
    | error e => exact threads.toNone
    | ok _ => exact threads

/-! ## The inquiry of a workflow -/

namespace Workflow

section Turns

variable {workflow : Workflow σ} {transport : Transport σ} {purpose : Purpose}
  (each : ∀ entry ∈ workflow.entries, entry.generator.HasInquiry transport purpose)
include each

/-- A turn follows an inquiry. -/
theorem exists_inquiry_turn {front rest : List (Entry (Generator σ) × Nat)} {entry : Entry (Generator σ)} {place : Nat}
    (split : workflow.placed purpose.mode = front ++ (entry, place) :: rest) (running : Uint256)
    (past : List Recorded) :
    ∃ inquiry : Inquiry σ (Except WorkflowError (Uint256 × List Recorded)), ∀ amount world before,
      takeTurns purpose workflow.name (front.map Prod.fst) amount [] (world.clear workflow.cell) =
        (.ok (running, past), before) →
      ∃ blocks, inquiry.Explains transport purpose (workflow.VisitsAmong purpose amount world [(entry, place)]) running
        before (takeTurn purpose workflow.name entry running past before) Prod.fst blocks := by
  cases isOut : entry.options.leavesOut running (purpose.contextAfter workflow.name past) with
  | true =>
    refine ⟨.done (.ok (running, past)), fun amount world before inFront => ⟨[], ?_⟩⟩
    rw [takeTurn_of_leavesOut isOut]
    exact ⟨.done, .nil (not_visits_of_leavesOut split inFront isOut), .done⟩
  | false =>
    have isEntry := mem_placed.mp (split ▸ List.mem_append_right front List.mem_cons_self)
    obtain ⟨ask, asks⟩ := each entry (List.mem_of_getElem? isEntry) running
      (purpose.contextAfter workflow.name past) (purpose.contextAfter_mode workflow.name past)
      (purpose.contextAfter_data workflow.name past)
    refine ⟨(ask.under place).bind fun answer =>
      .done (purpose.recordAnswer workflow.name entry.generator.name entry.options past answer),
      fun amount world before inFront => ?_⟩
    obtain ⟨blocks, follows, accounts, threads⟩ := asks before
    rw [takeTurn_of_run isOut rfl]
    refine ⟨blocks.map (Block.under place) ++ [], (follows.under place).bind .done, ?_, ?_⟩
    · rw [List.append_nil]
      exact (accounts.under place).congr (visitsAmong_singleton split inFront isOut)
    · rw [List.append_nil]
      exact (threads.under place).recordAnswer _ _ _ _

/-- So do the turns that are left over, from some turn on. -/
theorem exists_inquiry_turns (rest front : List (Entry (Generator σ) × Nat))
    (split : workflow.placed purpose.mode = front ++ rest) (running : Uint256) (past : List Recorded) :
    ∃ inquiry : Inquiry σ (Except WorkflowError (Uint256 × List Recorded)), ∀ amount world before,
      takeTurns purpose workflow.name (front.map Prod.fst) amount [] (world.clear workflow.cell) =
        (.ok (running, past), before) →
      ∃ blocks, inquiry.Explains transport purpose (workflow.VisitsAmong purpose amount world rest) running before
        (takeTurns purpose workflow.name (rest.map Prod.fst) running past before) Prod.fst blocks := by
  induction rest generalizing front running past with
  | nil =>
    refine ⟨.done (.ok (running, past)), fun amount world before _ => ⟨[], .done, .nil ?_, .done⟩⟩
    rintro address visit ⟨_, isIn, -⟩
    cases isIn
  | cons first rest ih =>
    obtain ⟨entry, place⟩ := first
    have further : workflow.placed purpose.mode = (front ++ [(entry, place)]) ++ rest := by
      rw [split, List.append_assoc, List.singleton_append]
    obtain ⟨turn, explains⟩ := exists_inquiry_turn each split running past
    choose next goesOn using ih (front ++ [(entry, place)]) further
    refine ⟨turn.bind fun outcome => match outcome with
      | .error e => .done (.error e)
      | .ok (running, records) => next running records, fun amount world before inFront => ?_⟩
    obtain ⟨blocks, follows, accounts, threads⟩ := explains amount world before inFront
    have apart (one other : List Nat) (visit visit' : Visit σ)
        (isHere : workflow.VisitsAmong purpose amount world [(entry, place)] one visit)
        (isBehind : workflow.VisitsAmong purpose amount world rest other visit') :
        purpose.mode.Behind one other := by
      obtain ⟨_, isThere, inside, rfl, -⟩ := isHere
      obtain rfl := List.mem_singleton.mp isThere
      obtain ⟨placed, isIn, inside', rfl, -⟩ := isBehind
      have inOrder := workflow.pairwise_placed purpose.mode
      rw [split] at inOrder
      exact .here (List.rel_of_pairwise_cons (List.pairwise_append.mp inOrder).2.1 isIn)
    rw [List.map_cons, takeTurns]
    cases taken : takeTurn purpose workflow.name entry running past before with | mk outcome after =>
    rw [taken] at follows threads
    cases outcome with
    | error e =>
      refine ⟨blocks ++ [], follows.bind .done, ?_, ?_⟩
      · exact (accounts.append (.nil (not_visits_of_stop split inFront taken)) apart).congr visitsAmong_cons
      · rw [List.append_nil]
        exact threads
    | ok left =>
      obtain ⟨running', records⟩ := left
      obtain ⟨more, followsOn, accountsOn, threadsOn⟩ := goesOn running' records amount world after (by
        rw [List.map_append, takeTurns_append, inFront]
        simp only [List.map_cons, List.map_nil, takeTurns, taken])
      exact ⟨blocks ++ more, follows.bind followsOn, (accounts.append accountsOn apart).congr visitsAmong_cons,
        threads.append threadsOn⟩

end Turns

end Workflow

/-- What comes of a nested workflow when its turns are over. -/
def Purpose.recordTurns (purpose : Purpose) (cell : CellId) (name : String) :
    Except WorkflowError (Uint256 × List Recorded) → Except WorkflowError BuiltStep
  | .error e => .error e
  | .ok (out, records) =>
    (BackwardWalk.build name (out, purpose.mode.inWalkOrder records)).map fun build =>
      .nested cell name build.amountOut build.value

theorem Workflow.run_eq_takeTurns (workflow : Workflow σ) (purpose : Purpose) (amount : Uint256) (context : RunContext)
    (world : World σ) :
    let taken := takeTurns purpose workflow.name ((workflow.placed purpose.mode).map Prod.fst) amount []
      (world.clear workflow.cell)
    (workflow.asGenerator.run purpose amount context world).1 =
        purpose.recordTurns workflow.cell workflow.name taken.1 ∧
      (workflow.asGenerator.run purpose amount context world).2.outside = taken.2.outside := by
  intro taken
  rw [run_asGenerator, buildFor_eq_takeTurns]
  show _ = purpose.recordTurns workflow.cell workflow.name taken.1 ∧ _
  cases outcome : taken with | mk answer after =>
  simp only [show takeTurns purpose workflow.name _ amount [] (world.clear workflow.cell) = _ from outcome]
  cases answer with
  | error e => exact ⟨rfl, rfl⟩
  | ok walked =>
    simp only [Purpose.recordTurns]
    cases BackwardWalk.build workflow.name (walked.1, purpose.mode.inWalkOrder walked.2) <;> exact ⟨rfl, rfl⟩

/-- What is recorded of the turns passes on their amount, or nothing. -/
theorem Threads.recordTurns {purpose : Purpose} {outcome : Except WorkflowError (Uint256 × List Recorded)}
    {amount : Uint256} {blocks : List (Block σ)} (threads : Threads amount blocks (outcome.toOption.map Prod.fst))
    (cell : CellId) (name : String) :
    Threads amount blocks ((purpose.recordTurns cell name outcome).toOption.map BuiltStep.amountOut) := by
  cases outcome with
  | error e => exact threads
  | ok walked =>
    obtain ⟨out, records⟩ := walked
    rw [Purpose.recordTurns]
    cases built : BackwardWalk.build name (out, purpose.mode.inWalkOrder records) with
    | error e => exact threads.toNone
    | ok build =>
      have isOut : build.amountOut = out := (BackwardWalk.build_ok built).1
      show Threads amount blocks (some build.amountOut)
      rwa [isOut]

/-- A workflow follows an inquiry when its generators do. -/
theorem Workflow.hasInquiry {workflow : Workflow σ} {transport : Transport σ} {purpose : Purpose}
    (each : ∀ entry ∈ workflow.entries, entry.generator.HasInquiry transport purpose) :
    workflow.asGenerator.HasInquiry transport purpose := by
  intro amount context _ _
  obtain ⟨turns, explains⟩ := exists_inquiry_turns each (workflow.placed purpose.mode) [] rfl amount []
  refine ⟨turns.bind fun outcome => .done (purpose.recordTurns workflow.cell workflow.name outcome), fun world => ?_⟩
  obtain ⟨blocks, follows, accounts, threads⟩ := explains amount world (world.clear workflow.cell) rfl
  obtain ⟨answer, outside⟩ := workflow.run_eq_takeTurns purpose amount context world
  refine ⟨blocks ++ [], ?_, ?_, ?_⟩
  · rw [answer, outside]
    exact follows.bind .done
  · rw [List.append_nil]
    refine accounts.congr fun address visit => ⟨fun ⟨_, _, _, _, visits⟩ => visits, fun visits => ?_⟩
    obtain ⟨place, inside, generator, _, _, _, rfl, ⟨_, options, isEntry, _⟩, _⟩ := visits_iff.mp visits
    exact ⟨(⟨generator, options⟩, place), mem_placed.mpr isEntry, inside, rfl, visits⟩
  · rw [List.append_nil, answer]
    exact threads.recordTurns _ _

/-- Quoted calls over one transport, and workflows of such, follow an inquiry. -/
theorem Generator.ReadsOver.hasInquiry {transport : Transport σ} {generator : Generator σ}
    (reads : generator.ReadsOver transport) (purpose : Purpose) : generator.HasInquiry transport purpose := by
  induction reads with
  | probe probe isOver => exact isOver ▸ probe.hasInquiry purpose
  | @nested cell name encoder entries _ ih =>
    have each : ∀ entry ∈ (⟨cell, name, encoder, entries⟩ : Workflow σ).entries,
      entry.generator.HasInquiry transport purpose := ih
    exact Workflow.hasInquiry each

/-! ## Builds that read -/

namespace Workflow

/-- What a build sends through a transport. -/
structure Sends (workflow : Workflow σ) (transport : Transport σ) (amount : Uint256) (mode : RunMode) (data : RunData)
    (world : World σ) (blocks : List (Block σ)) : Prop where
  /-- The requests of the blocks are all that is sent, one block after another. -/
  exchanged : transport.Exchanges world.outside (blocks.flatMap (Block.exchanges mode))
    (workflow.build amount mode data world).2.outside
  /-- So a record of the requests grows by as many equal ones for each block as it has answers. -/
  logged : ∀ (α : Type) (log : σ → List α) (note : CallRequest → α), transport.Logs log note →
    log (workflow.build amount mode data world).2.outside =
      log world.outside ++
        blocks.flatMap fun block => List.replicate block.answers.length (note (block.asked.request mode))
  /-- There is at least one, and not more than the policy allows; the last one settles the block. -/
  settled : ∀ block ∈ blocks, 1 ≤ block.answers.length ∧
    block.answers.length ≤ max 1 block.asked.probe.quote.retry.attempts.toNat ∧
    block.asked.probe.quote.retry.Settles block.earlier block.last
  /-- The blocks stand in the order of the walk, those of nested workflows where these stand. -/
  inOrder : blocks.Pairwise fun one other => mode.Behind one.asked.address other.asked.address
  /-- Each is that of a quoted call that is asked with the tolerance known, and is for the running amount. -/
  visited : ∀ block ∈ blocks, data.slippage.isSome = true ∧ ∃ context before,
    Visits ⟨mode, data⟩ workflow amount world block.asked.address
      ⟨block.asked.probe.call.run, block.asked.amount, context, before⟩
  /-- Every quoted call that is asked with the tolerance known has one. -/
  complete : data.slippage.isSome = true → ∀ address visit, Visits ⟨mode, data⟩ workflow amount world address visit →
    ∃ block ∈ blocks, block.asked.address = address ∧ block.asked.amount = visit.amount ∧
      block.asked.probe.call.run = visit.run
  /-- The amount of each is the one that the last answer before it holds. -/
  threads : Threads amount blocks (workflow.build amount mode data world).1.toOption
  /-- Without the tolerance there is none, and a build that asks a quoted call fails. -/
  untold : data.slippage = none → blocks = [] ∧ ∀ address visit,
    Visits ⟨mode, data⟩ workflow amount world address visit →
    ∃ error, (workflow.build amount mode data world).1 = .error error
  /-- Where a generator fails, a quoted call or a workflow of such, the build fails and no block stands behind. -/
  failed : ∀ address after, Fails ⟨mode, data⟩ workflow amount world address after →
    (∃ error, workflow.build amount mode data world = (.error error, after)) ∧
      ∀ block ∈ blocks, ¬ mode.Behind address block.asked.address

/-- A quoted call that is asked without the tolerance being known fails. -/
theorem Visits.run_of_none {purpose : Purpose} {workflow : Workflow σ} {transport : Transport σ} {amount : Uint256}
    {world : World σ} {address : List Nat} {visit : Visit σ}
    (visits : Visits purpose workflow amount world address visit) (reads : workflow.ReadsOver transport)
    (unknown : purpose.data.slippage = none) :
    ∃ e, visit.run visit.amount visit.context visit.before.outside = (.error e, visit.before.outside) := by
  induction visits with
  | @leaf _ _ running _ before _ name run context asked =>
    obtain ⟨turn, options, isEntry, -⟩ := asked
    have data : context.data = purpose.data := by cases turn <;> rfl
    have isOver := reads _ (List.mem_of_getElem? isEntry)
    generalize isLeaf : Generator.leaf name run = generator at isOver
    cases isOver with
    | nested => cases isLeaf
    | probe probe _ =>
      obtain ⟨rfl, rfl⟩ := Generator.leaf.inj isLeaf
      refine ⟨.missingRunData probe.name "slippage", ?_⟩
      simp only [QuotedCall.run, RunContext.requireSlippage, data, unknown]
      rfl
  | @inside _ inner _ _ _ _ _ _ _ _ asked _ ih =>
    obtain ⟨_, options, isEntry, -⟩ := asked
    have isOver := reads _ (List.mem_of_getElem? isEntry)
    generalize isNested : inner.asGenerator = generator at isOver
    cases isOver with
    | probe => cases isNested
    | nested inside =>
      obtain ⟨rfl, rfl, rfl, rfl⟩ := Generator.nested.inj isNested
      exact ih inside

/-- A build answers with the amount of the run of the workflow as a generator. -/
theorem toOption_build (workflow : Workflow σ) (amount : Uint256) (mode : RunMode) (data : RunData)
    (context : RunContext) (world : World σ) :
    (workflow.build amount mode data world).1.toOption =
      (workflow.asGenerator.run ⟨mode, data⟩ amount context world).1.toOption.map BuiltStep.amountOut := by
  rw [build, run_asGenerator]
  cases workflow.buildFor ⟨mode, data⟩ amount world with | mk outcome after =>
  cases outcome <;> rfl

/-- A quoted call that sends the amount and takes the first word of the answer. -/
def wordProbe (name : String) (attempts : UInt32) : Probe Stage :=
  ⟨name, some ⟨7⟩, ⟨Stage.transport "rpc", ⟨9⟩, fun amount _ => wordOf amount, ⟨attempts, 0⟩, 0⟩,
    fun amounts => wordOf amounts.amountIn ++ wordOf amounts.limit, .absent⟩

/-- Quoted calls around a workflow of quoted calls; one is skipped. -/
def probingPlan : Workflow Stage :=
  let inner : Workflow Stage :=
    ⟨[1], "inner", ⟨.farm, default⟩,
      [⟨(wordProbe "swap" 1).call.generator, .plain⟩, ⟨(wordProbe "sell" 2).call.generator, .plain⟩]⟩
  ⟨[0], "route", ⟨.advancedFarm, default⟩,
    [⟨(wordProbe "wrap" 3).call.generator, .plain⟩,
      ⟨(wordProbe "stake" 3).call.generator, { StepOptions.plain with skip := .always }⟩,
      ⟨inner.asGenerator, .plain⟩, ⟨(wordProbe "send" 3).call.generator, .plain⟩]⟩

/-- An endpoint that is busy at first and breaks down later. -/
def busyStage : Stage :=
  Stage.empty.set "rpc"
    ⟨[.failed (.status 503), .returned (wordOf 8), .returned (wordOf 9), .failed (.http "reset"),
      .failed (.status 429), .returned (wordOf 10)], []⟩

end Workflow

end CallWeave
