import CallWeave.Clipboard.Basic
import CallWeave.Json.Quantity
import CallWeave.Json.Record

/-!
# Stored clipboards

A clipboard is stored as three fields: its kind, its instructions and its value. Not every triple is a
clipboard: a static one holds no instruction, a single one exactly one and a multi one at least one, and
every field of an instruction fits 80 bits. `Clipboard.toStored` and `Clipboard.ofStored` go between the two,
and the triple is a JSON record in turn.
-/

namespace CallWeave

/-- The fields of a stored clipboard. -/
structure StoredClipboard where
  kind : ClipboardKind
  instructions : List Instruction
  value : Uint256
deriving DecidableEq

namespace Clipboard

/-- The fields under which a clipboard is stored. -/
def toStored (c : Clipboard) : StoredClipboard := ⟨c.kind, c.instructions, c.value⟩

/-- The clipboard with some fields, if there is one. -/
def ofStored (fields : StoredClipboard) : Except ClipboardError Clipboard :=
  match fields.kind, fields.instructions with
  | .static, [] => ofParams .empty fields.value
  | .single, [i] => ofParams (.flat i) fields.value
  | .multi, first :: rest => ofParams (.nested (first :: rest)) fields.value
  | kind, is =>
    .error (.malformed ("a " ++ kind.title ++ " clipboard cannot hold " ++ toString is.length ++ " instructions"))

end Clipboard

namespace StoredClipboard

/-- An instruction as a record. -/
def instructionToJson (i : Instruction) : Json :=
  .object [("source_call_index", .ofNat i.source.toNat), ("copy_byte_offset", .ofNat i.copy.toNat),
    ("paste_byte_offset", .ofNat i.paste.toNat)]

/-- Reads a number of 128 bits. -/
def uint128OfJson? (json : Json) : Option Uint128 :=
  (json.natBelow? (Nat.pow 2 128)).map (BitVec.ofNat 128)

/-- Reads an instruction. -/
def instructionOfJson? (json : Json) : Option Instruction :=
  match json.fields? ["source_call_index", "copy_byte_offset", "paste_byte_offset"] with
  | some [some a, some b, some c] =>
    match uint128OfJson? a, uint128OfJson? b, uint128OfJson? c with
    | some source, some copy, some paste => some ⟨source, copy, paste⟩
    | _, _, _ => none
  | _ => none

/-- Reads a kind: its name, alone or as the one member of an object with nothing in it. -/
def kindOfJson? : Json → Option ClipboardKind
  | .string name => ClipboardKind.ofName? name
  | .object [(name, .null)] => ClipboardKind.ofName? name
  | _ => none

/-- Reads a list of instructions. -/
def instructionsOfJson? : Json → Option (List Instruction)
  | .array items => items.mapM instructionOfJson?
  | _ => none

/-- The fields as a record. -/
def toJson (fields : StoredClipboard) : Json :=
  .object [("kind", .string fields.kind.name),
    ("instructions", .array (fields.instructions.map instructionToJson)),
    ("value", uint256ToJson fields.value)]

/-- Reads the fields; a value that is left out is zero. -/
def ofJson? (json : Json) : Option StoredClipboard :=
  match json.fields? ["kind", "instructions", "value"] with
  | some [some kind, some instructions, value] =>
    match kindOfJson? kind, instructionsOfJson? instructions, Json.defaulted? uint256OfJson? 0 value with
    | some kind, some instructions, some value => some ⟨kind, instructions, value⟩
    | _, _, _ => none
  | _ => none

end StoredClipboard

end CallWeave
