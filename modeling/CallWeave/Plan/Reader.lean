import CallWeave.Plan.Document
import CallWeave.Yaml.Value

/-!
# Reading plans

A plan is a YAML document. A text field takes the text of any scalar; calldata, addresses and amounts take what
the scalar stands for, so digits without quotes are a number. An optional field is missing when its scalar is
null. Names that are no fields are ignored, and a field that stands twice is refused. Mappings and sequences
nest at most 128 levels deep.
-/

namespace CallWeave.Plan

open Yaml

/-- What a reader works on: a document and the levels that are left. -/
structure Source where
  document : Document
  depth : Nat

/-- The text of a scalar. -/
def text? (source : Source) (node : Node Nat) : Option String :=
  match source.document.resolve node with
  | .scalar _ text _ => some text
  | _ => none

/-- Whether a scalar stands for nothing. -/
def isNull (source : Source) (node : Node Nat) : Bool :=
  match source.document.resolve node with
  | .scalar _ text plain => plain && (text.isEmpty || isNullText text)
  | _ => false

/-- Reads a field that may be null. -/
def optional? {α : Type} (source : Source) (read? : Node Nat → Option α) (node : Node Nat) : Option (Option α) :=
  if isNull source node then some none else (read? node).map some

/-- The truth value of a plain scalar. -/
def bool? (source : Source) (node : Node Nat) : Option Bool :=
  match source.document.resolve node with
  | .scalar _ text true => boolOf? text
  | _ => none

/-- What a scalar stands for. -/
def atom? (source : Source) (node : Node Nat) : Option Atom :=
  match source.document.resolve node with
  | .scalar _ text plain => some (scalarAtom text plain)
  | _ => none

/-- One byte in a list. -/
def octet? (source : Source) (node : Node Nat) : Option UInt8 :=
  match source.document.resolve node with
  | .scalar _ text true =>
    match integerOf? text.toList with
    | some (.natural n) => if n < 256 then some (UInt8.ofNat n) else none
    | some (.negative 0) => some 0
    | _ => none
  | _ => none

/-- Bytes: their text or the list of them. -/
def bytes? (source : Source) (node : Node Nat) : Option Bytes :=
  match source.document.resolve node with
  | .sequence _ items => if source.depth = 0 then none else items.mapM (octet? source)
  | _ =>
    match atom? source node with
    | some (.text text) => (Hex.decode text).toOption
    | _ => none

/-- An address: exactly twenty bytes. -/
def address? (source : Source) (node : Node Nat) : Option Address :=
  match source.document.resolve node with
  | .sequence _ _ => (bytes? source node).bind Address.ofBytes?
  | _ =>
    match atom? source node with
    | some (.text text) => (Address.parse text).toOption
    | _ => none

/-- An amount that an atom stands for. -/
def amountOf? : Atom → Option Uint256
  | .natural n => some (BitVec.ofNat 256 n)
  | .text text => (Numeral.uint256 text).toOption
  | _ => none

/-- An amount: a number, or a text in any of the bases. -/
def amount? (source : Source) (node : Node Nat) : Option Uint256 :=
  (atom? source node).bind amountOf?

/-- An entry point, by its name. -/
def kind? (source : Source) (node : Node Nat) : Option EncoderKind :=
  (text? source node).bind EncoderKind.ofName?

/-! ## Clipboards -/

/-- Whether a name stands for the field at a position: its name, or the position itself. -/
def isField (name : String) (position : Nat) : Value → Bool
  | .atom (.text text) => text == name
  | .atom (.natural n) => n == position
  | _ => false

/-- Whether something may stand as the name of a field. -/
def isFieldName : Value → Bool
  | .atom (.text _) | .atom (.natural _) => true
  | _ => false

/-- What stands for a field; refused when it stands twice. -/
def valueField? (pairs : List (Value × Value)) (name : String) (position : Nat) : Option (Option Value) :=
  match pairs.filter fun pair => isField name position pair.1 with
  | [] => some none
  | [(_, value)] => some (some value)
  | _ => none

/-- A slot: a number of 64 bits. -/
def slot? : Value → Option UInt64
  | .atom (.natural n) => if n < Nat.pow 2 64 then some (UInt64.ofNat n) else none
  | .atom (.negative 0) => some 0
  | _ => none

/-- A value that may be missing or null. -/
def optionalValue? {α : Type} (read? : Value → Option α) : Option Value → Option (Option α)
  | none => some none
  | some (.atom .null) => some none
  | some value => (read? value).map some

/-- A clipboard that pastes from a tag. -/
def fromTag? (pairs : List (Value × Value)) : Option PlanClipboard :=
  match valueField? pairs "from_tag" 0, valueField? pairs "copy_slot" 1, valueField? pairs "paste_slot" 2 with
  | some (some (.atom (.text tag))), some copySlot, some (some pasteSlot) =>
    match optionalValue? slot? copySlot, slot? pasteSlot with
    | some copySlot, some pasteSlot => some (.fromTag tag copySlot pasteSlot)
    | _, _ => none
  | _, _, _ => none

/-- An amount among values. -/
def valueAmount? : Value → Option Uint256
  | .atom atom => amountOf? atom
  | _ => none

/-- A clipboard with instructions of its own. -/
def literal? (pairs : List (Value × Value)) : Option PlanClipboard :=
  match valueField? pairs "instructions" 0, valueField? pairs "value" 1 with
  | some (some instructions), some value =>
    match instructions.json?, optionalValue? valueAmount? value with
    | some instructions, some value => some (.literal instructions value)
    | _, _ => none
  | _, _ => none

/-- A clipboard: the first of the two forms that fits. -/
def clipboard? (source : Source) (node : Node Nat) : Option PlanClipboard :=
  match source.document.value? source.depth node with
  | some (.map pairs) =>
    if pairs.all fun pair => isFieldName pair.1 then
      match fromTag? pairs with
      | some clipboard => some clipboard
      | none => literal? pairs
    else none
  | _ => none

/-! ## Steps and documents -/

/-- The fields of a mapping by name; nothing stands for a mapping without fields. -/
def fields? (source : Source) (node : Node Nat) : Option (List (String × Node Nat)) :=
  match source.document.resolve node with
  | .mapping _ pairs =>
    if source.depth = 0 then none
    else pairs.mapM fun (name, value) => (text? source name).map fun name => (name, value)
  | .scalar _ "" true => some []
  | _ => none

/-- Reads a field that may be left out; refused when it stands twice. -/
def field? {α : Type} (fields : List (String × Node Nat)) (name : String) (default : α)
    (read? : Node Nat → Option α) : Option α :=
  match fields.filter (·.1 == name) with
  | [] => some default
  | [(_, node)] => read? node
  | _ => none

/-- Reads a step; `plan?` reads a plan inside it. -/
def step? (source : Source) (plan? : Node Nat → Option PlanDocument) (node : Node Nat) : Option PlanStep := do
  let fields ← fields? source node
  let source : Source := ⟨source.document, source.depth - 1⟩
  let name ← field? fields "name" none fun node => (text? source node).map some
  let callData ← field? fields "call_data" none (optional? source (bytes? source))
  let target ← field? fields "target" none (optional? source (address? source))
  let tag ← field? fields "tag" none (optional? source (text? source))
  let skip ← field? fields "skip" false (bool? source)
  let onlyLocal ← field? fields "only_local" false (bool? source)
  let onlyExecute ← field? fields "only_execute" false (bool? source)
  let amountOut ← field? fields "amount_out" none (optional? source (amount? source))
  let value ← field? fields "value" none (optional? source (amount? source))
  let clipboard ← field? fields "clipboard" none (optional? source (clipboard? source))
  let workflow ← field? fields "workflow" none (optional? source plan?)
  return ⟨← name, callData, target, tag, skip, onlyLocal, onlyExecute, amountOut, value, clipboard, workflow⟩

/-- Reads the steps of a plan; nothing stands for no steps. -/
def steps? (source : Source) (step? : Node Nat → Option PlanStep) (node : Node Nat) : Option (List PlanStep) :=
  match source.document.resolve node with
  | .sequence _ items => if source.depth = 0 then none else items.mapM step?
  | .scalar _ "" true => some []
  | _ => none

/-- Reads a plan of at most some levels. A plan takes three of them for its fields, its steps and the fields
of a step. -/
def document? (document : Document) : (depth : Nat) → Node Nat → Option PlanDocument
  | depth, node => do
    let source (n : Nat) : Source := ⟨document, n⟩
    let fields ← fields? (source depth) node
    let workflow ← field? fields "workflow" none (optional? (source depth) (text? (source depth)))
    let kind ← field? fields "kind" .advancedFarm (kind? (source depth))
    let readSteps : Node Nat → Option (List PlanStep) :=
      match depth with
      | depth + 3 => steps? (source (depth + 2)) (step? (source (depth + 1)) (document? document depth))
      | depth => steps? (source (depth - 1)) (step? (source (depth - 2)) fun _ => none)
    let steps ← field? fields "steps" [] readSteps
    return .mk workflow kind steps

/-- Reads a plan from a text. -/
def parse? (text : String) : Option PlanDocument :=
  match Yaml.document? text with
  | none => none
  | some ⟨none, _⟩ => some .empty
  | some ⟨some root, targets⟩ => document? ⟨some root, targets⟩ 128 root

end CallWeave.Plan
