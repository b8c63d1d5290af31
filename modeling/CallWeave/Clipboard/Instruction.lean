import CallWeave.Bytes.BigEndian

/-!
# Paste instructions

An instruction copies one 32-byte word out of the return data of an earlier call into the arguments of the
current one. It names the source call by its position and both places by byte offsets. On the wire each of
the three fields takes 80 bits, so an instruction fits one word behind a two-byte prefix: `Instruction.pack`
and `Instruction.unpack`.
-/

namespace CallWeave

/-- Copies one word of an earlier call's return data into the current call. -/
structure Instruction where
  /-- The position of the earlier call among the calls that are sent. -/
  source : Uint128
  /-- The place in its return data, in bytes. -/
  copy : Uint128
  /-- The place in the arguments of the current call, in bytes. -/
  paste : Uint128
deriving DecidableEq, Inhabited

/-- What can be wrong with a clipboard. -/
inductive ClipboardError where
  /-- A field takes more than 80 bits. -/
  | offsetOverflow (field : String) (value : Uint128)
  /-- A JSON text that is no list of instructions, in compact form. -/
  | unsupportedShape (json : String)
  /-- An encoding or a stored clipboard that breaks the format. -/
  | malformed (reason : String)
deriving DecidableEq

/-- The text of an error. -/
def ClipboardError.message : ClipboardError → String
  | .offsetOverflow field value => field ++ " " ++ toString value.toNat ++ " does not fit in 80 bits"
  | .unsupportedShape json => "unsupported paste instruction shape: " ++ json
  | .malformed reason => "malformed clipboard: " ++ reason

namespace Instruction

/-- The largest number that a field holds on the wire. -/
def maxField : Nat := Nat.pow 2 80 - 1

/-- All three fields fit 80 bits. -/
def Fits (i : Instruction) : Prop :=
  i.source.toNat ≤ maxField ∧ i.copy.toNat ≤ maxField ∧ i.paste.toNat ≤ maxField

instance (i : Instruction) : Decidable i.Fits :=
  inferInstanceAs (Decidable (_ ∧ _ ∧ _))

/-- The fields with their names, in the order in which they are checked and packed. -/
def fields (i : Instruction) : List (String × Uint128) :=
  [("source call index", i.source), ("copy byte offset", i.copy), ("paste byte offset", i.paste)]

/-- The first field that takes more than 80 bits. -/
def overflow? (i : Instruction) : Option ClipboardError :=
  (i.fields.find? fun field => maxField < field.2.toNat).map fun field => .offsetOverflow field.1 field.2

/-- An instruction fits exactly when no field of it is too wide. -/
theorem overflow?_eq_none_iff (i : Instruction) : i.overflow? = none ↔ i.Fits := by
  simp [overflow?, fields, Fits]

/-- The offset of a word that is counted from `base`, if it fits 128 bits. -/
def offsetOfWord (field : String) (base : Nat) (word : Uint128) : Except ClipboardError Uint128 :=
  let offset := word.toNat * 32 + base
  if offset < Nat.pow 2 128 then .ok (BitVec.ofNat 128 offset) else .error (.offsetOverflow field word)

/-- The instruction that addresses its two places by words. Return data is counted from behind its length,
arguments from behind the selector and their length. -/
def slot (source copyWord pasteWord : Uint128) : Except ClipboardError Instruction :=
  match offsetOfWord "copy word" 32 copyWord with
  | .error e => .error e
  | .ok copy =>
    match offsetOfWord "paste word" 36 pasteWord with
    | .error e => .error e
    | .ok paste =>
      let i : Instruction := ⟨source, copy, paste⟩
      match i.overflow? with
      | some e => .error e
      | none => .ok i

/-- The three fields behind a two-byte prefix; bits beyond the 80th are dropped. -/
def packed (i : Instruction) (first second : UInt8) : Bytes :=
  first :: second :: (bigEndian 10 i.source.toNat ++ bigEndian 10 i.copy.toNat ++ bigEndian 10 i.paste.toNat)

/-- Packs an instruction that fits behind a two-byte prefix. -/
def pack (i : Instruction) (first second : UInt8) : Except ClipboardError Bytes :=
  match i.overflow? with
  | some e => .error e
  | none => .ok (i.packed first second)

/-- The field of ten bytes at a place of a word. -/
def fieldAt (word : Bytes) (place : Nat) : Uint128 :=
  BitVec.ofNat 128 (fromBigEndian ((word.drop place).take 10))

/-- Splits a word into its two-byte prefix and its instruction. -/
def unpack (word : Bytes) : UInt8 × UInt8 × Instruction :=
  (word.getD 0 0, word.getD 1 0, ⟨fieldAt word 2, fieldAt word 12, fieldAt word 22⟩)

end Instruction

end CallWeave
