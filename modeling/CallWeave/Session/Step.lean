import CallWeave.Generator.Adjustment
import CallWeave.Generator.Quoted
import CallWeave.Session.Transport

/-!
# Scripted steps

Steps that are described by data alone: fixed calls, amounts that follow a simple rule, quotes with a fixed
ratio or from a scripted transport, and steps whose payload shows what a generator sees of its run.
-/

namespace CallWeave

/-- How a step changes the running amount. -/
inductive AmountRule where
  | pass
  | set (n : Uint256)
  | add (n : Uint256)
  | mul (n : Uint256)
deriving DecidableEq

/-- The amount after a step; sums and products are modulo 2^256. -/
def AmountRule.apply (rule : AmountRule) (amount : Uint256) : Uint256 :=
  match rule with
  | .pass => amount
  | .set n => n
  | .add n => amount + n
  | .mul n => amount * n

/-- When a step is left out. -/
inductive ScriptedSkip where
  | fixed (skip : Bool)
  | above (n : Uint256)
  | equal (n : Uint256)
  | inMode (mode : RunMode)
  | hasTag (tag : String)
  /-- The step built last has this name. -/
  | follows (name : String)
  | hasData (key : String)
deriving DecidableEq

/-- The rule of a scripted skip. -/
def ScriptedSkip.rule : ScriptedSkip → SkipRule
  | .fixed skip => .ofBool skip
  | .above n => .when fun amount _ => n < amount
  | .equal n => .when fun amount _ => amount = n
  | .inMode mode => .when fun _ context => context.mode = mode
  | .hasTag tag => .when fun _ context => (context.tags.lookup tag).isSome
  | .follows name => .when fun _ context => (context.previous?.map BuiltStep.name) == some name
  | .hasData key => .when fun _ context => (context.data.get? key).isSome

/-- What a step makes of return data. -/
inductive ScriptedDecoder where
  /-- The number of bytes. -/
  | length
  /-- The number in the first word. -/
  | word
deriving DecidableEq

/-- The decoder of a script. -/
def ScriptedDecoder.decoder : ScriptedDecoder → Decoder
  | .length => fun data => .ok (.ofNat data.length)
  | .word => fun data =>
    if data.length < 32 then .error (.decode "word" ("got " ++ toString data.length ++ " bytes"))
    else .ok (.string (toString (fromBigEndian (data.take 32))))

/-- Where a quote comes from. -/
inductive ScriptedQuote where
  /-- A fixed ratio, turned around while walking backward. -/
  | ratio (mul div : Uint256)
  | fails (error : WorkflowError)
  /-- A word of what a view call on a contract returns. -/
  | remote (transport : String) (target : Address) (attempts : UInt32) (resultWord : UInt64)

/-- The calldata of a scripted view call: the amount and the name of the mode. -/
def ScriptedQuote.request (amount : Uint256) (mode : RunMode) : Bytes :=
  wordOf amount ++ mode.name.toByteArray.data.toList

/-- The quote of a script. -/
def ScriptedQuote.quote : ScriptedQuote → Quote Stage
  | .ratio mul div => fun amount mode stage =>
    if mode.isReversed then (.ok (amount * div / mul), stage) else (.ok (amount * mul / div), stage)
  | .fails error => fun _ _ stage => (.error error, stage)
  | .remote transport target attempts resultWord =>
    TransportQuote.quote ⟨Stage.transport transport, target, request, ⟨attempts, 0⟩, resultWord⟩

/-- The payload of a scripted quoted call: its three amounts. -/
def QuotedAmounts.words (amounts : QuotedAmounts) : Bytes :=
  wordOf amounts.amountIn ++ wordOf amounts.quoted ++ wordOf amounts.limit

/-- A quoted call as a script describes it. -/
structure ScriptedQuotedCall where
  quote : ScriptedQuote
  target : Option Address
  clipboard : ClipboardSource

/-- The quoted call of a script. -/
def ScriptedQuotedCall.call (name : String) (script : ScriptedQuotedCall) : QuotedCall Stage :=
  ⟨name, script.target, script.quote.quote, QuotedAmounts.words, script.clipboard⟩

/-- A whole step as a script describes it. -/
structure ScriptedWholeStep where
  name : String
  amount : AmountRule
  value : Option Uint256
  call : Except WorkflowError PreparedCall
  decoder : Option ScriptedDecoder
  resultDecoder : Option ScriptedDecoder

/-- What a context looks like to a generator. -/
def RunContext.toJson (context : RunContext) : Json :=
  .object [("index", .ofNat context.index), ("mode", .string context.mode.name),
    ("previous", .ofText? (context.previous?.map BuiltStep.name)),
    ("steps", .array (context.steps.map fun step =>
      .array [.string step.name, .string (toString step.amountOut.toNat)])),
    ("tags", .array (context.tags.map fun (tag, index) => .array [.string tag, .ofNat index])),
    ("workflow", .string context.workflow)]

/-- The payload that a text is. -/
def textPayload (text : String) : StepOutput := .payload text.toByteArray.data.toList

/-- What a scripted generator does. -/
inductive ScriptedStep where
  | payload (data : Bytes)
  | prepared (call : PreparedCall)
  | whole (step : ScriptedWholeStep)
  | raw (call : RawCall)
  | quoted (call : ScriptedQuotedCall)
  | localAdd (n : Uint256)
  | adjust (amount : AmountRule) (error : Option WorkflowError)
  | fail (error : WorkflowError)
  /-- The payload is the tolerance that the run data has to have. -/
  | needSlippage
  /-- The payload is an entry that the run data has to have. -/
  | needData (key : String)
  /-- The payload is the context. -/
  | showContext
  /-- The payload is the amount, with a word pasted into it. -/
  | paste (tag : String) (copySlot : Option UInt64) (pasteSlot : UInt64)
  /-- The payload is the position of a tag. -/
  | showTag (tag : String)

namespace ScriptedStep

/-- The generator of a scripted step. -/
def generator (name : String) : ScriptedStep → Generator Stage
  | .payload data => .pure name fun _ _ => .ok (.payload data)
  | .prepared call => .pure name fun _ _ => .ok (.prepared call)
  | .whole script => .pure name fun amount _ =>
    .ok (.step ⟨script.name, script.amount.apply amount, script.value, script.call,
      script.decoder.map ScriptedDecoder.decoder, script.resultDecoder.map ScriptedDecoder.decoder⟩)
  | .raw call => RawCall.generator { call with name := name }
  | .quoted script => (script.call name).generator
  | .localAdd n => (Adjustment.add name n).generator
  | .adjust amount error => Adjustment.generator ⟨name, fun running _ =>
    match error with
    | some e => .error e
    | none => .ok (amount.apply running)⟩
  | .fail error => .pure name fun _ _ => .error error
  | .needSlippage => .pure name fun _ context =>
    (context.requireSlippage name).map fun percent => textPayload (Decimal.exact.text percent)
  | .needData key => .pure name fun _ context =>
    match context.data.get? key with
    | some value => .ok (textPayload value.compact)
    | none => .error (.missingRunData name key)
  | .showContext => .pure name fun _ context => .ok (textPayload context.toJson.compact)
  | .paste tag copySlot pasteSlot => .pure name fun amount context =>
    match context.pasteFrom tag copySlot pasteSlot with
    | .ok clipboard => .ok (.prepared ⟨none, wordOf amount, some clipboard⟩)
    | .error e => .error (.clipboard e)
  | .showTag tag => .pure name fun _ context =>
    (context.findTag tag).map fun index => .payload (bigEndian 32 index)

end ScriptedStep

end CallWeave
