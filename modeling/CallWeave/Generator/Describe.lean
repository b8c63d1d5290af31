import CallWeave.Generator.Quoted
import CallWeave.Text.Quoted

/-!
# Descriptions

One-line descriptions of steps, options and quoted calls: their fields by name. What is a function has no
description; two points stand where such fields are left out.
-/

namespace CallWeave.Describe

/-- A value that may be missing. -/
def optional {α : Type} (describe : α → String) : Option α → String
  | some a => "Some(" ++ describe a ++ ")"
  | none => "None"

/-- A truth value. -/
def truth (b : Bool) : String := if b then "true" else "false"

/-- Named fields between braces; `isOpen` says that some are left out. -/
def fields (name : String) (members : List (String × String)) (isOpen : Bool) : String :=
  let texts := members.map fun (field, value) => field ++ ": " ++ value
  name ++ " \x7b " ++ ", ".intercalate (if isOpen then texts ++ [".."] else texts) ++ " \x7d"

/-- A skip rule. -/
def skipRule : SkipRule → String
  | .never => "Never"
  | .always => "Always"
  | .when _ => "When(..)"

/-- The options of a step. -/
def options (o : StepOptions) : String :=
  fields "StepOptions" [("tag", optional Text.quoted o.tag), ("skip", skipRule o.skip),
    ("only_local", truth o.onlyLocal), ("only_execute", truth o.onlyExecute)] false

/-- The source of a clipboard. -/
def clipboardSource : ClipboardSource → String
  | .absent => "None"
  | .literal bytes => "Literal(" ++ Hex.encode bytes ++ ")"
  | .fromTag tag copySlot pasteSlot =>
    fields "FromTag" [("tag", Text.quoted tag),
      ("copy_slot", optional (fun slot => toString slot.toNat) copySlot),
      ("paste_slot", toString pasteSlot.toNat)] false

/-- A quoted call. -/
def quotedCall {σ : Type} (call : QuotedCall σ) : String :=
  fields "QuotedCall" [("name", Text.quoted call.name), ("target", optional Address.toHex call.target),
    ("clipboard", clipboardSource call.clipboard)] true

/-- A step. -/
def step (s : Step) : String :=
  fields "Step" [("name", Text.quoted s.name), ("amount_out", toString s.amountOut.toNat),
    ("value", optional (fun value => toString value.toNat) s.value)] true

end CallWeave.Describe
