import CallWeave.Workflow.Plan

/-!
# Raw calls

A step whose payload is fixed when the plan is written. Its clipboard may be given too, or paste a word of
what an earlier step returns, found by its tag. A tag that is not part of the build, or no word to copy, leaves
the call as it was written.
-/

namespace CallWeave

/-- Where the clipboard of a call comes from. -/
inductive ClipboardSource where
  | absent
  /-- An encoded clipboard. -/
  | literal (bytes : Bytes)
  /-- A word of the return data of the step with a tag, pasted into a word of the arguments. -/
  | fromTag (tag : String) (copySlot : Option UInt64) (pasteSlot : UInt64)
deriving DecidableEq, Inhabited

/-- The clipboard that pastes a word from the step with a tag. -/
def RunContext.pasteFrom (context : RunContext) (tag : String) (copySlot : Option UInt64) (pasteSlot : UInt64) :
    Except ClipboardError Bytes :=
  match context.tags.lookup tag, copySlot with
  | some index, some copy =>
    Clipboard.encodeSlot (BitVec.ofNat 128 index) (BitVec.ofNat 128 copy.toNat) (BitVec.ofNat 128 pasteSlot.toNat) 0
  | _, _ => .ok Clipboard.empty.toBytes

/-- The clipboard of a source in a context. -/
def ClipboardSource.resolve (context : RunContext) : ClipboardSource → Except WorkflowError (Option Bytes)
  | .absent => .ok none
  | .literal bytes => .ok (some bytes)
  | .fromTag tag copySlot pasteSlot =>
    match context.pasteFrom tag copySlot pasteSlot with
    | .ok bytes => .ok (some bytes)
    | .error e => .error (.clipboard e)

/-- A call that is fixed when the plan is written. -/
structure RawCall where
  name : String
  target : Option Address
  payload : Bytes
  clipboard : ClipboardSource
  /-- Stands in for the running amount, which is passed on otherwise. -/
  amountOut : Option Uint256
  value : Option Uint256
deriving DecidableEq

namespace RawCall

/-- A call with a payload and nothing else. -/
def plain (name : String) (payload : Bytes) : RawCall := ⟨name, none, payload, .absent, none, none⟩

/-- The step of a raw call. -/
def step (raw : RawCall) (amountIn : Uint256) (context : RunContext) : Except WorkflowError Step :=
  match raw.clipboard.resolve context with
  | .error e => .error e
  | .ok clipboard =>
    .ok ⟨raw.name, raw.amountOut.getD amountIn, raw.value, .ok ⟨raw.target, raw.payload, clipboard⟩, none, none⟩

/-- A raw call as a generator. -/
def generator {σ : Type} (raw : RawCall) : Generator σ :=
  .pure raw.name fun amount context => (raw.step amount context).map .step

end RawCall

end CallWeave
