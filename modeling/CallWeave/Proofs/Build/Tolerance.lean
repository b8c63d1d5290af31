import CallWeave.Generator.Adjustment
import CallWeave.Generator.Quoted
import CallWeave.Proofs.Amount.Rounding
import CallWeave.Proofs.Plan.Turns

/-!
# What the tolerance of a run moves

A workflow of quoted calls, raw calls and fixed adjustments is a chain of amounts: each step gets what the one before
it leaves, and a quoted call leaves its quote. The tolerance of the run data enters nowhere but into the limit that a
quoted call is encoded with. So two builds whose run data differ in the tolerance alone ask the same quotes for the same
amounts, in one order, and make the same steps but for the payloads of the quoted calls
(`Workflow.tolerance_moves_limits`).

The two builds are walked together. What a step could tell them apart by is the tolerance itself and the payloads in
front of it (`RunContext.Resembles`); a skip rule that looks at these is the one thing that has to be excluded.
-/

namespace CallWeave

variable {σ : Type}

/-! ## The order of a walk -/

namespace RunMode

/-- What belongs to the steps of a plan, in the order in which a build comes to them. -/
def inWalkOrder {α : Type} (mode : RunMode) (items : List α) : List α :=
  if mode.isReversed then items.reverse else items

variable {α β : Type} {mode : RunMode}

@[simp] theorem inWalkOrder_inWalkOrder (items : List α) : mode.inWalkOrder (mode.inWalkOrder items) = items := by
  cases direction : mode.isReversed <;> simp [inWalkOrder, direction]

@[simp] theorem mem_inWalkOrder {items : List α} {item : α} : item ∈ mode.inWalkOrder items ↔ item ∈ items := by
  cases direction : mode.isReversed <;> simp [inWalkOrder, direction]

theorem map_inWalkOrder (f : α → β) (items : List α) :
    (mode.inWalkOrder items).map f = mode.inWalkOrder (items.map f) := by
  cases direction : mode.isReversed <;> simp [inWalkOrder, direction]

theorem sublist_inWalkOrder (mode : RunMode) {items all : List α} (isSub : items.Sublist all) :
    (mode.inWalkOrder items).Sublist (mode.inWalkOrder all) := by
  cases direction : mode.isReversed <;> simpa [inWalkOrder, direction] using isSub

theorem forall₂_inWalkOrder (mode : RunMode) {R : α → β → Prop} {items : List α} {others : List β}
    (related : List.Forall₂ R items others) : List.Forall₂ R (mode.inWalkOrder items) (mode.inWalkOrder others) := by
  cases direction : mode.isReversed <;> simpa [inWalkOrder, direction] using related

theorem recordsOf_inWalkOrder (turns : List (Turn σ)) :
    recordsOf (mode.inWalkOrder turns) = mode.inWalkOrder (recordsOf turns) := by
  cases direction : mode.isReversed <;> simp [inWalkOrder, direction, recordsOf_reverse]

end RunMode

/-! ## Builds that resemble each other -/

/-- Two steps are the same but for the payloads of their calls. -/
inductive BuiltStep.Resembles : BuiltStep → BuiltStep → Prop
  | own (step : Step) (call : PreparedCall) (payload : Bytes) :
      Resembles (.own { step with call := .ok call })
        (.own { step with call := .ok { call with payload := payload } })

/-- What a step shows besides its call is the same. -/
theorem BuiltStep.Resembles.shown_eq {step other : BuiltStep} (alike : step.Resembles other) :
    other.name = step.name ∧ other.amountOut = step.amountOut ∧ other.value = step.value := by
  cases alike
  exact ⟨rfl, rfl, rfl⟩

/-- Two records have steps that resemble each other, and the same options. -/
def Recorded.Resembles (record other : Recorded) : Prop := record.1.Resembles other.1 ∧ other.2 = record.2

/-- Two contexts are the same but for the tolerance and the payloads of the calls so far. -/
structure RunContext.Resembles (context other : RunContext) : Prop where
  mode : other.mode = context.mode
  extra : other.data.extra = context.data.extra
  steps : List.Forall₂ BuiltStep.Resembles context.steps other.steps
  index : other.index = context.index
  workflow : other.workflow = context.workflow
  tags : other.tags = context.tags

namespace Recorded

variable {records records' : List Recorded}

/-- The options of the emitted steps. -/
theorem options_callsOf (records : List Recorded) :
    (callsOf records).map Prod.snd = (records.map Prod.snd).filter fun options => !options.onlyLocal := by
  rw [callsOf, List.filter_map]
  rfl

variable (alike : List.Forall₂ Recorded.Resembles records records')
include alike

/-- What is the same of two records that resemble each other is the same of lists of them. -/
theorem map_eq {α : Type} {f : Recorded → α}
    (same : ∀ record other : Recorded, record.Resembles other → f other = f record) : records'.map f = records.map f := by
  induction alike with
  | nil => rfl
  | cons first _ ih => rw [List.map_cons, List.map_cons, same _ _ first, ih]

/-- What is recorded with the same options is emitted with the same options. -/
theorem options_callsOf_eq : (callsOf records').map Prod.snd = (callsOf records).map Prod.snd := by
  rw [options_callsOf, options_callsOf, map_eq alike fun _ _ related => related.2]

theorem length_callsOf_eq : (callsOf records').length = (callsOf records).length := by
  rw [← List.length_map Prod.snd, options_callsOf_eq alike, List.length_map]

theorem tagsOf_eq : tagsOf records' = tagsOf records := by
  have tags (records : List Recorded) : (callsOf records).map (fun record => record.2.tag) =
      ((callsOf records).map Prod.snd).map StepOptions.tag := (List.map_map ..).symm
  rw [tagsOf_eq_tagIndex, tagsOf_eq_tagIndex, tags, tags, options_callsOf_eq alike]

theorem summary_eq : (records'.map fun record => (record.1.name, record.1.amountOut)) =
    records.map fun record => (record.1.name, record.1.amountOut) := by
  refine map_eq alike fun record other related => ?_
  obtain ⟨name, amountOut, -⟩ := related.1.shown_eq
  rw [name, amountOut]

theorem totalOf_eq : totalOf records' = totalOf records := by
  have cost (record other : Recorded) (related : record.Resembles other) : other.1.cost = record.1.cost := by
    obtain ⟨-, -, value⟩ := related.1.shown_eq
    rw [BuiltStep.cost, BuiltStep.cost, value]
  rw [totalOf, totalOf, map_eq alike cost]

/-- Two builds show the same besides the calls when their records resemble each other. -/
theorem shown_eq {build build' : Build} (holds : build.Holds records) (holds' : build'.Holds records') :
    build'.steps.map (fun step => (step.name, step.amountOut)) =
        build.steps.map (fun step => (step.name, step.amountOut)) ∧
      build'.tags = build.tags ∧ build'.emitted.length = build.emitted.length ∧ build'.value = build.value := by
  refine ⟨?_, ?_, ?_, ?_⟩
  · rw [holds.steps, holds'.steps, List.map_map, List.map_map]
    exact summary_eq alike
  · rw [holds.tags, holds'.tags, tagsOf_eq alike]
  · rw [holds.emitted_length, holds'.emitted_length, length_callsOf_eq alike]
  · rw [holds.value, holds'.value, totalOf_eq alike]

/-- Behind records that resemble each other, the next generator sees contexts that do. -/
theorem contextAfter_resembles {mode : RunMode} {one other : RunData} (extra : one.extra = other.extra)
    (name : String) :
    (Purpose.contextAfter ⟨mode, one⟩ name records).Resembles (Purpose.contextAfter ⟨mode, other⟩ name records') := by
  have steps : List.Forall₂ BuiltStep.Resembles (records.map Prod.fst) (records'.map Prod.fst) := by
    rw [List.forall₂_map_left_iff, List.forall₂_map_right_iff]
    exact alike.imp fun _ _ related => related.1
  rw [Purpose.contextAfter, Purpose.contextAfter]
  cases mode.isReversed with
  | true => exact ⟨rfl, extra.symm, steps, rfl, rfl, rfl⟩
  | false => exact ⟨rfl, extra.symm, steps, length_callsOf_eq alike, rfl, tagsOf_eq alike⟩

end Recorded

/-- A skip rule does not tell two run data apart: neither by the tolerances, nor by the payloads that come of them. -/
def SkipRule.IsIndifferent (one other : RunData) (rule : SkipRule) : Prop :=
  ∀ (amount : Uint256) (context context' : RunContext), context.data = one → context'.data = other →
    context.Resembles context' → rule.applies amount context' = rule.applies amount context

/-- What is left out of one build is left out of the other. -/
theorem StepOptions.leavesOut_eq {options : StepOptions} {one other : RunData}
    (indifferent : options.skip.IsIndifferent one other) (amount : Uint256) {context context' : RunContext}
    (data : context.data = one) (data' : context'.data = other) (alike : context.Resembles context') :
    options.leavesOut amount context' = options.leavesOut amount context := by
  rw [leavesOut, leavesOut, alike.mode, indifferent amount context context' data data' alike]

/-! ## Links -/

/-- A step of a chain. What a quote answers depends on the amount and the mode alone. -/
inductive Link (σ : Type) where
  | quoted (call : QuotedCall σ) (steady : ∀ (amount : Uint256) (mode : RunMode) (outside outside' : σ),
      (call.quote amount mode outside').1 = (call.quote amount mode outside).1)
  | raw (call : RawCall)
  | add (name : String) (extra : Uint256)

namespace Link

/-- The generator of a link. -/
def generator : Link σ → Generator σ
  | .quoted call _ => call.generator
  | .raw call => call.generator
  | .add name extra => (Adjustment.add name extra).generator

/-- The entry of a link with its options. -/
def entry (placed : Link σ × StepOptions) : Entry (Generator σ) := ⟨placed.1.generator, placed.2⟩

/-- Where the clipboard of a link comes from. -/
def clipboard : Link σ → ClipboardSource
  | .quoted call _ => call.clipboard
  | .raw call => call.clipboard
  | .add _ _ => .absent

/-- The amount that a link leaves of another: a quoted call leaves what its quote answers, whatever the outside
world is. -/
inductive Leaves (mode : RunMode) : Link σ → Uint256 → Uint256 → Prop
  | quoted {call : QuotedCall σ} {steady} {amountIn quoted : Uint256}
      (answered : ∀ outside, (call.quote amountIn mode outside).1 = .ok quoted) :
      Leaves mode (.quoted call steady) amountIn quoted
  | raw {call : RawCall} {amountIn : Uint256} : Leaves mode (.raw call) amountIn (call.amountOut.getD amountIn)
  | add {name : String} {extra amountIn : Uint256} :
      Leaves mode (.add name extra) amountIn (Adjustment.saturatingAdd amountIn extra)

/-- The outside world after a link was asked: only a quote leaves a trace. -/
def ask (mode : RunMode) : Link σ → Uint256 → σ → σ
  | .quoted call _, amountIn, outside => (call.quote amountIn mode outside).2
  | .raw _, _, outside | .add _ _, _, outside => outside

theorem Leaves.unique {mode : RunMode} {link : Link σ} {amountIn left right : Uint256} (outside : σ)
    (one : link.Leaves mode amountIn left) (two : link.Leaves mode amountIn right) : left = right := by
  cases one with
  | quoted answered =>
    cases two with
    | quoted answered' => exact Except.ok.inj ((answered outside).symm.trans (answered' outside))
  | raw => cases two; rfl
  | add => cases two; rfl

end Link

/-! ## Rows -/

/-- What a link was given and what it left, with its options and its clipboard. -/
structure Row (σ : Type) where
  link : Link σ
  options : StepOptions
  amountIn : Uint256
  amountOut : Uint256
  clipboard : Option Bytes

namespace Row

/-- The link of a row as it stands in the chain. -/
def placed (row : Row σ) : Link σ × StepOptions := (row.link, row.options)

/-- What a row makes under some run data. A quoted call is encoded from the amount that it gets, the quoted amount and
a limit: the least output under the tolerance, or the largest input when the walk goes backward. -/
inductive Makes (mode : RunMode) (data : RunData) : Row σ → BuiltStep → Prop
  | quoted {call : QuotedCall σ} {steady} {options : StepOptions} {amountIn quoted limit : Uint256}
      {clipboard : Option Bytes} {percent : Float} (tolerance : data.slippage = some percent)
      (limited : if mode.isReversed then Slippage.pad quoted percent = .ok limit ∧ quoted ≤ limit
        else Slippage.slip quoted percent = .ok limit ∧ limit ≤ quoted) :
      Makes mode data ⟨.quoted call steady, options, amountIn, quoted, clipboard⟩
        (.own (.ofCall call.name quoted ⟨call.target, call.encode ⟨amountIn, quoted, limit⟩, clipboard⟩))
  | raw {call : RawCall} {options : StepOptions} {amountIn amountOut : Uint256} {clipboard : Option Bytes} :
      Makes mode data ⟨.raw call, options, amountIn, amountOut, clipboard⟩
        (.own ⟨call.name, amountOut, call.value, .ok ⟨call.target, call.payload, clipboard⟩, none, none⟩)
  | add {name : String} {extra : Uint256} {options : StepOptions} {amountIn amountOut : Uint256} :
      Makes mode data ⟨.add name extra, options, amountIn, amountOut, none⟩
        (.own (.ofCall name amountOut (.plain [])))

variable {mode : RunMode} {one other : RunData}

/-- Under two run data, a row makes steps that resemble each other. -/
theorem Makes.resembles {row : Row σ} {step step' : BuiltStep} (makes : row.Makes mode one step)
    (makes' : row.Makes mode other step') : step.Resembles step' := by
  cases makes with
  | @quoted call _ _ amountIn quoted limit clipboard =>
    cases makes' with
    | @quoted _ _ _ _ _ limit' =>
      exact .own (.ofCall call.name quoted (.plain [])) ⟨call.target, call.encode ⟨amountIn, quoted, limit⟩, clipboard⟩
        (call.encode ⟨amountIn, quoted, limit'⟩)
  | @raw call _ _ amountOut clipboard =>
    cases makes'
    exact .own ⟨call.name, amountOut, call.value, .ok default, none, none⟩ ⟨call.target, call.payload, clipboard⟩ _
  | @add name _ _ _ amountOut =>
    cases makes'
    exact .own (.ofCall name amountOut (.plain [])) (.plain []) _

theorem Makes.amountOut_eq {row : Row σ} {step : BuiltStep} (makes : row.Makes mode one step) :
    step.amountOut = row.amountOut := by
  cases makes <;> rfl

/-- A record is that of a row. -/
def Records (mode : RunMode) (data : RunData) (row : Row σ) (record : Recorded) : Prop :=
  row.Makes mode data record.1 ∧ record.2 = row.options

theorem Records.resembles {row : Row σ} {record record' : Recorded} (here : row.Records mode one record)
    (there : row.Records mode other record') : record.Resembles record' :=
  ⟨here.1.resembles there.1, there.2.trans here.2.symm⟩

/-- Under two run data, rows make records that resemble each other. -/
theorem resembles_of_records {rows : List (Row σ)} {records records' : List Recorded}
    (here : List.Forall₂ (Records mode one) rows records) (there : List.Forall₂ (Records mode other) rows records') :
    List.Forall₂ Recorded.Resembles records records' := by
  induction here generalizing records' with
  | nil =>
    cases there
    exact .nil
  | cons first _ ih =>
    cases there with
    | cons first' rest' => exact .cons (first.resembles first') (ih rest')

/-- Rows that follow each other: each gets what the one before it leaves. -/
inductive Threaded (mode : RunMode) : Uint256 → List (Row σ) → Uint256 → Prop
  | done {amount : Uint256} : Threaded mode amount [] amount
  | next {row : Row σ} {rows : List (Row σ)} {out : Uint256}
      (leaves : row.link.Leaves mode row.amountIn row.amountOut) (rest : Threaded mode row.amountOut rows out) :
      Threaded mode row.amountIn (row :: rows) out

/-- The outside world after the links of some rows were asked for their amounts, one after another. -/
def askAll (mode : RunMode) (rows : List (Row σ)) (outside : σ) : σ :=
  rows.foldl (fun outside row => row.link.ask mode row.amountIn outside) outside

end Row

/-! ## One link -/

/-- The limit of a quote is on the safe side of it. -/
theorem QuotedCall.limit_bounds {mode : RunMode} {quoted limit : Uint256} {percent : Float}
    (limited : QuotedCall.limit mode quoted percent = .ok limit) :
    if mode.isReversed then Slippage.pad quoted percent = .ok limit ∧ quoted ≤ limit
    else Slippage.slip quoted percent = .ok limit ∧ limit ≤ quoted := by
  rw [QuotedCall.limit] at limited
  cases direction : mode.isReversed with
  | true =>
    rw [direction, if_pos rfl] at limited
    rw [if_pos rfl]
    exact ⟨limited, Slippage.le_pad limited⟩
  | false =>
    rw [direction, if_neg (by decide)] at limited
    rw [if_neg (by decide)]
    exact ⟨limited, Slippage.slip_le limited⟩

/-- A quoted call that runs has asked its quote, and makes the step of a row with the quoted amount. -/
theorem QuotedCall.run_ok {call : QuotedCall σ} {steady} {purpose : Purpose} {amount : Uint256} {context : RunContext}
    {world after : World σ} {step : BuiltStep}
    (ran : call.generator.run purpose amount context world = (.ok step, after)) (options : StepOptions) :
    ∃ quoted clipboard, (Link.quoted call steady).Leaves context.mode amount quoted ∧
      call.clipboard.resolve context = .ok clipboard ∧
      Row.Makes context.mode context.data ⟨.quoted call steady, options, amount, quoted, clipboard⟩ step ∧
      after = ⟨world.cells, (call.quote amount context.mode world.outside).2⟩ := by
  simp only [QuotedCall.generator, Generator.run, QuotedCall.run] at ran
  cases tolerance : context.data.slippage with
  | none => simp [RunContext.requireSlippage, tolerance] at ran
  | some percent =>
    simp only [RunContext.requireSlippage, tolerance] at ran
    cases asked : call.quote amount context.mode world.outside with | mk answer outside =>
    cases answer with
    | error e => simp [asked] at ran
    | ok quoted =>
      simp only [asked, QuotedCall.step] at ran
      cases limited : QuotedCall.limit context.mode quoted percent with
      | error e => simp [limited, Except.map] at ran
      | ok limit =>
        cases resolved : call.clipboard.resolve context with
        | error e => simp [limited, resolved, Except.map] at ran
        | ok clipboard =>
          simp only [limited, resolved, Except.map, Prod.mk.injEq, Except.ok.injEq] at ran
          obtain ⟨rfl, rfl⟩ := ran
          have answered (other : σ) : (call.quote amount context.mode other).1 = .ok quoted := by
            rw [steady amount context.mode world.outside other, asked]
          exact ⟨quoted, clipboard, .quoted answered, rfl, .quoted tolerance (limit_bounds limited), rfl⟩

/-- A link that runs makes the step of a row. -/
theorem Link.run_ok {link : Link σ} {purpose : Purpose} {amount : Uint256} {context : RunContext}
    {world after : World σ} {step : BuiltStep}
    (ran : link.generator.run purpose amount context world = (.ok step, after)) (options : StepOptions) :
    ∃ amountOut clipboard, link.Leaves context.mode amount amountOut ∧
      link.clipboard.resolve context = .ok clipboard ∧
      Row.Makes context.mode context.data ⟨link, options, amount, amountOut, clipboard⟩ step ∧
      after = ⟨world.cells, link.ask context.mode amount world.outside⟩ := by
  cases link with
  | quoted call steady => exact QuotedCall.run_ok ran options
  | raw call =>
    simp only [Link.generator, RawCall.generator, Generator.pure, Generator.run, RawCall.step] at ran
    cases resolved : call.clipboard.resolve context with
    | error e => simp [resolved, Except.map] at ran
    | ok clipboard =>
      simp only [resolved, Except.map, Prod.mk.injEq, Except.ok.injEq] at ran
      obtain ⟨rfl, rfl⟩ := ran
      exact ⟨_, clipboard, .raw, resolved, .raw, rfl⟩
  | add name extra =>
    simp only [Link.generator, Adjustment.generator, Generator.pure, Generator.run, Adjustment.step, Adjustment.add,
      Except.map, Prod.mk.injEq, Except.ok.injEq] at ran
    obtain ⟨rfl, rfl⟩ := ran
    exact ⟨_, none, .add, rfl, .add, rfl⟩

/-! ## Two walks -/

/-- Rows tell a walk under some run data. -/
structure Row.Tells (mode : RunMode) (data : RunData) (rows : List (Row σ)) (amount : Uint256) (world : World σ)
    (turns : List (Turn σ)) (out : Uint256) (last : World σ) : Prop where
  threaded : Row.Threaded mode amount rows out
  outside : last.outside = Row.askAll mode rows world.outside
  records : List.Forall₂ (Row.Records mode data) rows (recordsOf turns)

/-- The turn of a row: it makes the step of the row and leaves its amount, and its link has been asked. -/
structure Row.IsTurn (mode : RunMode) (data : RunData) (row : Row σ) (turn : Turn σ) : Prop where
  amountIn : turn.amount = row.amountIn
  leaves : row.link.Leaves mode row.amountIn row.amountOut
  makes : ∃ step, turn.step? = some step ∧ row.Makes mode data step
  options : turn.entry.options = row.options
  after : turn.after = ⟨turn.before.cells, row.link.ask mode row.amountIn turn.before.outside⟩

section Walks

variable {mode : RunMode} {data one other : RunData} {amount out out' : Uint256}

theorem Row.IsTurn.record_eq {row : Row σ} {turn : Turn σ} (isTurn : row.IsTurn mode data turn) :
    ∃ record, turn.record? = some record ∧ row.Records mode data record := by
  obtain ⟨step, made, makes⟩ := isTurn.makes
  refine ⟨(step, turn.entry.options), by rw [Turn.record?, made]; rfl, makes, isTurn.options⟩

theorem Row.IsTurn.amountOut_eq {row : Row σ} {turn : Turn σ} (isTurn : row.IsTurn mode data turn) :
    turn.amountOut = row.amountOut := by
  obtain ⟨step, made, makes⟩ := isTurn.makes
  rw [Turn.amountOut, made, Option.map_some, Option.getD_some, makes.amountOut_eq]

/-- One more turn in front of a walk, told by one more row. -/
theorem Row.Tells.cons {row : Row σ} {rows : List (Row σ)} {turn : Turn σ} {turns : List (Turn σ)} {last : World σ}
    (isTurn : row.IsTurn mode data turn) (tells : Row.Tells mode data rows turn.amountOut turn.after turns out last) :
    Row.Tells mode data (row :: rows) turn.amount turn.before (turn :: turns) out last := by
  obtain ⟨threaded, outside, records⟩ := tells
  obtain ⟨record, recorded, isRecord⟩ := isTurn.record_eq
  rw [isTurn.amountOut_eq] at threaded
  refine ⟨isTurn.amountIn ▸ .next isTurn.leaves threaded, ?_, ?_⟩
  · rw [outside, isTurn.after]
    rfl
  · rw [recordsOf_cons, recorded]
    exact .cons isRecord records

/-- Two turns of one link, with one amount and in contexts that resemble each other: both are left out, or one row has
both of them. -/
theorem Turn.Taken.exists_row {turn turn' : Turn σ} {placed : Link σ × StepOptions}
    (taken : turn.Taken ⟨mode, one⟩) (taken' : turn'.Taken ⟨mode, other⟩) (entry : turn.entry = Link.entry placed)
    (entry' : turn'.entry = Link.entry placed) (amount : turn'.amount = turn.amount)
    (sameMode : turn.context.mode = mode) (data : turn.context.data = one) (data' : turn'.context.data = other)
    (alike : turn.context.Resembles turn'.context) (indifferent : placed.2.skip.IsIndifferent one other) :
    (turn.step? = none ∧ turn.after = turn.before) ∧ (turn'.step? = none ∧ turn'.after = turn'.before) ∨
      ∃ row : Row σ, row.placed = placed ∧ row.IsTurn mode one turn ∧ row.IsTurn mode other turn' := by
  obtain ⟨link, options⟩ := placed
  have leavesOut := StepOptions.leavesOut_eq indifferent turn.amount data data' alike
  cases taken with
  | leftOut isOut =>
    simp only at entry amount leavesOut
    subst entry
    cases taken' with
    | leftOut => exact .inl ⟨⟨rfl, rfl⟩, rfl, rfl⟩
    | made isIn =>
      simp only at entry' amount leavesOut
      subst entry' amount
      simp only [Link.entry] at isOut isIn
      simp [leavesOut, isOut] at isIn
  | @made _ _ _ before _ step isIn ran =>
    simp only at entry amount leavesOut sameMode data
    subst entry
    cases taken' with
    | leftOut isOut =>
      simp only at entry' amount leavesOut
      subst entry' amount
      simp only [Link.entry] at isOut isIn
      simp [leavesOut, isIn] at isOut
    | made isIn' ran' =>
      simp only at entry' amount leavesOut data' alike
      subst entry' amount
      obtain ⟨amountOut, clipboard, leaves, resolved, makes, isAfter⟩ := Link.run_ok ran options
      obtain ⟨amountOut', clipboard', leaves', resolved', makes', isAfter'⟩ := Link.run_ok ran' options
      rw [alike.mode, sameMode] at leaves' makes' isAfter'
      rw [sameMode] at leaves makes isAfter
      -- both runs leave what the link leaves of the amount, and resolve the clipboard by the same tags
      obtain rfl := leaves.unique before.outside leaves'
      rw [ClipboardSource.resolve_eq_ofTags, alike.tags, ← ClipboardSource.resolve_eq_ofTags, resolved] at resolved'
      obtain rfl := Except.ok.inj resolved'
      rw [data] at makes
      rw [data'] at makes'
      exact .inr ⟨⟨link, options, _, amountOut, clipboard⟩, rfl, ⟨rfl, leaves, ⟨step, rfl, makes⟩, rfl, isAfter⟩,
        ⟨rfl, leaves, ⟨_, rfl, makes'⟩, rfl, isAfter'⟩⟩

/-- Two walks along one chain, under run data that differ in the tolerance alone, are told by the same rows. -/
theorem Walked.exists_rows (extra : one.extra = other.extra) {chain : List (Link σ × StepOptions)}
    (indifferent : ∀ placed ∈ chain, placed.2.skip.IsIndifferent one other) {name : String} {past past' : List Recorded}
    (alike : List.Forall₂ Recorded.Resembles past past') {turns turns' : List (Turn σ)}
    {world world' last last' : World σ}
    (walked : Walked ⟨mode, one⟩ name past amount world turns out last)
    (walked' : Walked ⟨mode, other⟩ name past' amount world' turns' out' last')
    (entries : turns.map Turn.entry = chain.map Link.entry) (entries' : turns'.map Turn.entry = chain.map Link.entry) :
    ∃ rows : List (Row σ), (rows.map Row.placed).Sublist chain ∧
      Row.Tells mode one rows amount world turns out last ∧ Row.Tells mode other rows amount world' turns' out' last' := by
  induction chain generalizing past past' amount world world' turns turns' with
  | nil =>
    obtain rfl : turns = [] := by simpa using entries
    obtain rfl : turns' = [] := by simpa using entries'
    cases walked
    cases walked'
    exact ⟨[], .slnil, ⟨.done, rfl, .nil⟩, ⟨.done, rfl, .nil⟩⟩
  | cons placed chain ih =>
    obtain ⟨turn, turns, rfl, entry, entries⟩ := List.map_eq_cons_iff.mp entries
    obtain ⟨turn', turns', rfl, entry', entries'⟩ := List.map_eq_cons_iff.mp entries'
    obtain ⟨⟨rfl, rfl⟩, taken, sees, walked⟩ := walked.of_cons
    obtain ⟨⟨sameAmount, rfl⟩, taken', sees', walked'⟩ := walked'.of_cons
    have indifferent' : ∀ placed ∈ chain, placed.2.skip.IsIndifferent one other :=
      fun placed isIn => indifferent placed (List.mem_cons_of_mem _ isIn)
    have seen : turn.context.Resembles turn'.context := by
      rw [sees, sees']
      exact Recorded.contextAfter_resembles alike extra name
    rcases taken.exists_row taken' entry entry' sameAmount (by rw [sees, Purpose.contextAfter_mode])
        (by rw [sees, Purpose.contextAfter_data]) (by rw [sees', Purpose.contextAfter_data]) seen
        (indifferent placed List.mem_cons_self) with ⟨⟨none, after⟩, none', after'⟩ | ⟨row, isPlaced, isTurn, isTurn'⟩
    · -- nothing happens in either turn
      have record : turn.record? = Option.none := by rw [Turn.record?, none]; rfl
      have record' : turn'.record? = Option.none := by rw [Turn.record?, none']; rfl
      have amountOut : turn.amountOut = turn.amount := by rw [Turn.amountOut, none]; rfl
      have amountOut' : turn'.amountOut = turn.amount := by rw [Turn.amountOut, none', ← sameAmount]; rfl
      rw [record, amountOut, after, Option.toList_none, List.append_nil] at walked
      rw [record', amountOut', after', Option.toList_none, List.append_nil] at walked'
      obtain ⟨rows, isSub, tells, tells'⟩ := ih indifferent' alike walked walked' entries entries'
      refine ⟨rows, .cons _ isSub, ⟨tells.threaded, tells.outside, ?_⟩, ⟨tells'.threaded, tells'.outside, ?_⟩⟩
      · rw [recordsOf_cons, record]
        exact tells.records
      · rw [recordsOf_cons, record']
        exact tells'.records
    · obtain ⟨record, recorded, isRecord⟩ := isTurn.record_eq
      obtain ⟨record', recorded', isRecord'⟩ := isTurn'.record_eq
      have related : record.Resembles record' := isRecord.resembles isRecord'
      rw [isTurn'.amountOut_eq, ← isTurn.amountOut_eq, recorded'] at walked'
      rw [recorded] at walked
      obtain ⟨rows, isSub, tells, tells'⟩ :=
        ih indifferent' (List.rel_append alike (.cons related .nil)) walked walked' entries entries'
      rw [isTurn.amountOut_eq, ← isTurn'.amountOut_eq] at tells'
      exact ⟨row :: rows, isPlaced ▸ .cons_cons _ isSub, tells.cons isTurn, sameAmount ▸ tells'.cons isTurn'⟩

/-- Rows that are threaded end with the amount that the last one leaves. -/
theorem Row.Threaded.out_eq {rows : List (Row σ)} (threaded : Row.Threaded mode amount rows out) :
    out = rows.foldl (fun _ row => row.amountOut) amount := by
  induction threaded with
  | done => rfl
  | next _ _ ih => exact ih

/-- In the order of the plan, a row stands for each record of a walk that is told by rows. -/
theorem Row.Tells.forall₂_records {rows : List (Row σ)} {world last : World σ} {turns : List (Turn σ)}
    (tells : Row.Tells mode data (mode.inWalkOrder rows) amount world (mode.inWalkOrder turns) out last) :
    List.Forall₂ (Row.Records mode data) rows (recordsOf turns) := by
  have records := mode.forall₂_inWalkOrder tells.records
  rwa [RunMode.inWalkOrder_inWalkOrder, RunMode.recordsOf_inWalkOrder, RunMode.inWalkOrder_inWalkOrder] at records

/-- Two builds of one chain, under run data that differ in the tolerance alone, are told by the same rows. -/
theorem Workflow.Ran.exists_rows {workflow : Workflow σ} {chain : List (Link σ × StepOptions)}
    (isChain : workflow.entries = chain.map Link.entry) (extra : one.extra = other.extra)
    (indifferent : ∀ placed ∈ chain, placed.2.skip.IsIndifferent one other) {world world' after after' : World σ}
    {turns turns' : List (Turn σ)} {build build' : Build}
    (ran : workflow.Ran ⟨mode, one⟩ amount world turns build after)
    (ran' : workflow.Ran ⟨mode, other⟩ amount world' turns' build' after') :
    ∃ rows : List (Row σ), (rows.map Row.placed).Sublist chain ∧
      Row.Tells mode one (mode.inWalkOrder rows) amount world (mode.inWalkOrder turns) build.amountOut after ∧
      Row.Tells mode other (mode.inWalkOrder rows) amount world' (mode.inWalkOrder turns') build'.amountOut after' := by
  obtain ⟨last, walked, rfl⟩ := ran.walked
  obtain ⟨last', walked', rfl⟩ := ran'.walked
  have indifferent : ∀ placed ∈ mode.inWalkOrder chain, placed.2.skip.IsIndifferent one other :=
    fun placed isIn => indifferent placed (RunMode.mem_inWalkOrder.mp isIn)
  have entries {turns : List (Turn σ)} (isPlan : turns.map Turn.entry = workflow.entries) :
      (mode.inWalkOrder turns).map Turn.entry = (mode.inWalkOrder chain).map Link.entry := by
    rw [RunMode.map_inWalkOrder, RunMode.map_inWalkOrder, isPlan, isChain]
  obtain ⟨rows, isSub, tells, tells'⟩ :=
    walked.exists_rows extra indifferent .nil walked' (entries ran.entries) (entries ran'.entries)
  refine ⟨mode.inWalkOrder rows, ?_, ?_, ?_⟩
  · have isSub := mode.sublist_inWalkOrder isSub
    rwa [RunMode.inWalkOrder_inWalkOrder, ← RunMode.map_inWalkOrder] at isSub
  · rw [RunMode.inWalkOrder_inWalkOrder]
    exact ⟨tells.threaded, tells.outside, tells.records⟩
  · rw [RunMode.inWalkOrder_inWalkOrder]
    exact ⟨tells'.threaded, tells'.outside, tells'.records⟩

end Walks

/-! ## Two builds -/

/-- Of a chain of quoted calls, raw calls and fixed adjustments, two builds under run data that differ in the tolerance
alone are told by the same rows. They ask the same links for the same amounts in one order, each gets what the one
before it leaves, and a quoted call leaves its quote. What is built are the steps of the rows, where only the limits
that quoted calls are encoded with follow the tolerance. All that can be seen without the calls is the same. -/
theorem Workflow.tolerance_moves_limits {workflow : Workflow σ} {chain : List (Link σ × StepOptions)}
    (isChain : workflow.entries = chain.map Link.entry) {mode : RunMode} {one other : RunData}
    (extra : one.extra = other.extra) (indifferent : ∀ placed ∈ chain, placed.2.skip.IsIndifferent one other)
    {amount out out' : Uint256} {world world' after after' : World σ}
    (ok : workflow.build amount mode one world = (.ok out, after))
    (ok' : workflow.build amount mode other world' = (.ok out', after')) :
    ∃ rows : List (Row σ), (rows.map Row.placed).Sublist chain ∧
      Row.Threaded mode amount (mode.inWalkOrder rows) out ∧ out' = out ∧
      after.outside = Row.askAll mode (mode.inWalkOrder rows) world.outside ∧
      after'.outside = Row.askAll mode (mode.inWalkOrder rows) world'.outside ∧
      List.Forall₂ (Row.Makes mode one) rows (workflow.currentOrEmpty after.cells).steps ∧
      List.Forall₂ (Row.Makes mode other) rows (workflow.currentOrEmpty after'.cells).steps ∧
      workflow.summary after'.cells = workflow.summary after.cells ∧
      workflow.tags after'.cells = workflow.tags after.cells ∧
      workflow.length after'.cells = workflow.length after.cells ∧
      workflow.value after'.cells = workflow.value after.cells := by
  obtain ⟨build, rfl, built⟩ := Workflow.build_ok ok
  obtain ⟨build', rfl, built'⟩ := Workflow.build_ok ok'
  obtain ⟨turns, ran⟩ := workflow.buildFor_ok built
  obtain ⟨turns', ran'⟩ := workflow.buildFor_ok built'
  obtain ⟨rows, isSub, tells, tells'⟩ := ran.exists_rows isChain extra indifferent ran'
  have records := tells.forall₂_records
  have records' := tells'.forall₂_records
  obtain ⟨summary, tags, length, value⟩ :=
    Recorded.shown_eq (Row.resembles_of_records records records') ran.holds ran'.holds
  rw [Workflow.summary, Workflow.summary, Workflow.tags, Workflow.tags, Workflow.length, Workflow.length,
    Workflow.value, Workflow.value, ran.currentOrEmpty, ran'.currentOrEmpty, ran.holds.steps, ran'.holds.steps]
  refine ⟨rows, isSub, tells.threaded, ?_, tells.outside, tells'.outside, ?_, ?_, ?_, tags, length, value⟩
  · rw [tells.threaded.out_eq, tells'.threaded.out_eq]
  · rw [List.forall₂_map_right_iff]
    exact records.imp fun _ _ isRecord => isRecord.1
  · rw [List.forall₂_map_right_iff]
    exact records'.imp fun _ _ isRecord => isRecord.1
  · rw [← ran.holds.steps, ← ran'.holds.steps]
    exact summary

/-- A raw call that is left out when the tolerance is above ten percent, and a quote that notes in a log what it was
asked. -/
def cautiousChain : List (Link (List Uint256) × StepOptions) :=
  [(.raw { RawCall.plain "claim" [1] with amountOut := some 500 },
      { StepOptions.plain with skip := .when fun _ context => context.data.slippage.any (10 < ·) }),
    (.quoted
      ⟨"swap", some ⟨7⟩, fun amount _ log => (.ok (2 * amount), log ++ [amount]), fun amounts => wordOf amounts.limit,
        .absent⟩
      fun _ _ _ _ => rfl, .plain)]

/-- The chain as a workflow. -/
def cautiousRoute : Workflow (List Uint256) :=
  ⟨[], "cautious", .ofContracts default .advancedPipe, cautiousChain.map Link.entry⟩

/-- Where a skip rule looks at the tolerance, two tolerances move more than the limits: the quote is asked for another
amount, and the steps, their number and the final amount are others. -/
theorem cautiousRoute_tolerance_moves_amounts :
    cautiousRoute.entries = cautiousChain.map Link.entry ∧
      (RunData.withSlippage 1.0).extra = [] ∧ (RunData.withSlippage 50.0).extra = [] ∧
      ∃ after after' : World (List Uint256),
        cautiousRoute.build 1 .forward (.withSlippage 1.0) (.start []) = (.ok 1000, after) ∧
        cautiousRoute.build 1 .forward (.withSlippage 50.0) (.start []) = (.ok 2, after') ∧
        after.outside = [500] ∧ after'.outside = [1] ∧
        cautiousRoute.summary after.cells = [("claim", 500), ("swap", 1000)] ∧
        cautiousRoute.summary after'.cells = [("swap", 2)] ∧
        cautiousRoute.length after.cells = 2 ∧ cautiousRoute.length after'.cells = 1 :=
  ⟨rfl, rfl, rfl, _, _, rfl, rfl, rfl, rfl, rfl, rfl, rfl, rfl⟩

/-- A raw call, two quotes that note in a log what they were asked, and between them a local adjustment that stands
aside when there is nothing. -/
def tolerantChain : List (Link (List (String × Uint256)) × StepOptions) :=
  let double (name : String) (clipboard : ClipboardSource) : Link (List (String × Uint256)) :=
    .quoted
      ⟨name, some ⟨7⟩, fun amount mode log =>
        (.ok (if mode.isReversed then amount / 2 else 2 * amount), log ++ [(name, amount)]),
        fun amounts => wordOf amounts.amountIn ++ wordOf amounts.limit, clipboard⟩
      fun _ _ _ _ => rfl
  [(.raw { RawCall.plain "claim" [1] with amountOut := some 500 }, { StepOptions.plain with tag := some "claim" }),
    (double "swap" (.fromTag "claim" (some 0) 1), { StepOptions.plain with tag := some "swap" }),
    (.add "fee" 5, { StepOptions.plain with onlyLocal := true, skip := .when fun amount _ => amount = 0 }),
    (double "sell" .absent, .plain)]

/-- The chain as a workflow. -/
def tolerantRoute : Workflow (List (String × Uint256)) :=
  ⟨[], "route", .ofContracts default .advancedPipe, tolerantChain.map Link.entry⟩

/-- Built with one tolerance and again with another, the chain passes on the same amounts and adds the same requests to
the log. -/
theorem tolerantRoute_limits :
    ∃ (after after' : World (List (String × Uint256))) (rows : List (Row (List (String × Uint256)))),
      tolerantRoute.entries = tolerantChain.map Link.entry ∧
      (RunData.withSlippage 1.0).extra = [] ∧ (RunData.withSlippage 50.0).extra = [] ∧
      (∀ placed ∈ tolerantChain, placed.2.skip.IsIndifferent (.withSlippage 1.0) (.withSlippage 50.0)) ∧
      tolerantRoute.build 1 .forward (.withSlippage 1.0) (.start []) = (.ok 2010, after) ∧
      tolerantRoute.build 1 .forward (.withSlippage 50.0) after = (.ok 2010, after') ∧
      after.outside = [("swap", 500), ("sell", 1005)] ∧
      after'.outside = Row.askAll .forward rows after.outside ∧ Row.Threaded .forward 1 rows 2010 ∧
      List.Forall₂ (Row.Makes .forward (.withSlippage 1.0)) rows (tolerantRoute.currentOrEmpty after.cells).steps ∧
      List.Forall₂ (Row.Makes .forward (.withSlippage 50.0)) rows (tolerantRoute.currentOrEmpty after'.cells).steps ∧
      tolerantRoute.summary after'.cells = [("claim", 500), ("swap", 1000), ("fee", 1005), ("sell", 2010)] := by
  obtain ⟨after, after', ok, ok', outside, shown⟩ :
      ∃ after after', tolerantRoute.build 1 .forward (.withSlippage 1.0) (.start []) = (.ok 2010, after) ∧
        tolerantRoute.build 1 .forward (.withSlippage 50.0) after = (.ok 2010, after') ∧
        after.outside = [("swap", 500), ("sell", 1005)] ∧
        tolerantRoute.summary after.cells = [("claim", 500), ("swap", 1000), ("fee", 1005), ("sell", 2010)] :=
    ⟨(tolerantRoute.build 1 .forward (.withSlippage 1.0) (.start [])).2, _, rfl, rfl, rfl, rfl⟩
  have isChain : tolerantRoute.entries = tolerantChain.map Link.entry := rfl
  have extra (percent : Float) : (RunData.withSlippage percent).extra = [] := rfl
  have indifferent : ∀ placed ∈ tolerantChain,
      placed.2.skip.IsIndifferent (.withSlippage 1.0) (.withSlippage 50.0) := by
    simp only [tolerantChain, List.forall_mem_cons, List.not_mem_nil, false_imp_iff, implies_true, and_true]
    exact ⟨fun _ _ _ _ _ _ => rfl, fun _ _ _ _ _ _ => rfl, fun _ _ _ _ _ _ => rfl, fun _ _ _ _ _ _ => rfl⟩
  obtain ⟨rows, -, threaded, -, -, asked, steps, steps', summary, -⟩ :=
    Workflow.tolerance_moves_limits isChain ((extra 1.0).trans (extra 50.0).symm) indifferent ok ok'
  exact ⟨after, after', rows, isChain, extra 1.0, extra 50.0, indifferent, ok, ok', outside, asked, threaded, steps, steps',
    summary.trans shown⟩

end CallWeave
