import CallWeave.Clipboard.Instruction
import CallWeave.Bytes.Numeral
import CallWeave.Json.Writer

/-!
# Instruction lists as a caller writes them

No instruction, one instruction, or a list of them: the shape decides which of the three layouts a clipboard
gets. In JSON these are `[]`, a list of three fields, and a list of lists of three fields, the first item
telling the last two apart. A field is a number of 64 bits, or a text with a number of 128 bits in decimal or
behind `0x` in hexadecimal.
-/

namespace CallWeave

/-- The layouts of a clipboard. -/
inductive ClipboardKind where
  | static
  | single
  | multi
deriving DecidableEq, Inhabited

namespace ClipboardKind

/-- The first byte of an encoding. -/
def code : ClipboardKind → UInt8
  | .static => 0
  | .single => 1
  | .multi => 2

/-- The kind of a first byte. -/
def ofCode? (code : UInt8) : Option ClipboardKind :=
  if code = 0 then some .static else if code = 1 then some .single
  else if code = 2 then some .multi else none

/-- The name in stored clipboards. -/
def name : ClipboardKind → String
  | .static => "static"
  | .single => "single"
  | .multi => "multi"

/-- The kind of a name. -/
def ofName? (name : String) : Option ClipboardKind :=
  if name = "static" then some .static else if name = "single" then some .single
  else if name = "multi" then some .multi else none

/-- The name in messages. -/
def title : ClipboardKind → String
  | .static => "Static"
  | .single => "Single"
  | .multi => "Multi"

end ClipboardKind

/-- The instructions a caller asks for. -/
inductive PasteParams where
  | empty
  | flat (instruction : Instruction)
  | nested (instructions : List Instruction)
deriving DecidableEq, Inhabited

namespace PasteParams

/-- The layout that follows from the shape. -/
def kind : PasteParams → ClipboardKind
  | .empty => .static
  | .flat _ => .single
  | .nested [] => .static
  | .nested (_ :: _) => .multi

/-- The instructions in order. -/
def instructions : PasteParams → List Instruction
  | .empty => []
  | .flat i => [i]
  | .nested is => is

/-- Reads a field. -/
def fieldOfJson? : Json → Option Uint128
  | .int i => if 0 ≤ i ∧ i < Nat.pow 2 64 then some (BitVec.ofNat 128 i.toNat) else none
  | .string text =>
    let read := match text.toList with
      | '0' :: 'x' :: digits => Numeral.plain 16 (Nat.pow 2 128) digits
      | digits => Numeral.plain 10 (Nat.pow 2 128) digits
    match read with
    | .ok n => some (BitVec.ofNat 128 n)
    | .error _ => none
  | _ => none

/-- Reads an instruction: exactly three fields. -/
def instructionOfJson? : Json → Option Instruction
  | .array [a, b, c] =>
    match fieldOfJson? a, fieldOfJson? b, fieldOfJson? c with
    | some source, some copy, some paste => some ⟨source, copy, paste⟩
    | _, _, _ => none
  | _ => none

/-- Reads a list of instructions of either shape. -/
def ofJson? : Json → Option PasteParams
  | .array [] => some .empty
  | .array (.array first :: rest) => ((Json.array first :: rest).mapM instructionOfJson?).map .nested
  | json => (instructionOfJson? json).map .flat

/-- Reads a list of instructions, or names the text that is none. -/
def ofJson (json : Json) : Except ClipboardError PasteParams :=
  match ofJson? json with
  | some params => .ok params
  | none => .error (.unsupportedShape json.compact)

end PasteParams

end CallWeave
