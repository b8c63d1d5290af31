import CallWeave.Abi.Decoding
import CallWeave.Clipboard.Params

/-!
# Clipboards

A clipboard is a checked list of paste instructions with a value forwarded alongside the call. Its encoding
opens with a two-byte header, the kind and a flag that says whether a value follows:

```text
static  = (bytes2 header)                              [, uint256 value]
single  = (bytes32 header source copy paste)           [, uint256 value]
multi   = (bytes2 header, bytes32[] 0 source copy paste) [, uint256 value]
```

Every field of every instruction in a `Clipboard` fits 80 bits, so packing loses nothing. `Clipboard.ofParams`
checks what a caller asks for, `Clipboard.decode` reads an encoding.
-/

namespace CallWeave

/-- A number spelled by some bytes is below 256 to the number of bytes. -/
theorem fromBigEndian_lt (bytes : Bytes) : fromBigEndian bytes < Nat.pow 256 bytes.length := by
  suffices h : ∀ (l : Bytes) (n : Nat),
      l.foldl (fun number byte => number * 256 + byte.toNat) n < (n + 1) * Nat.pow 256 l.length by
    simpa [fromBigEndian] using h bytes 0
  intro l
  induction l with
  | nil => intro n; simp
  | cons b l ih =>
    intro n
    have hb : b.toNat < 256 := b.toNat_lt
    calc (b :: l).foldl (fun number byte => number * 256 + byte.toNat) n
        < (n * 256 + b.toNat + 1) * Nat.pow 256 l.length := ih _
      _ ≤ ((n + 1) * 256) * Nat.pow 256 l.length := Nat.mul_le_mul_right _ (by omega)
      _ = (n + 1) * Nat.pow 256 (b :: l).length := by
        show _ = (n + 1) * (Nat.pow 256 l.length * 256)
        rw [Nat.mul_assoc, Nat.mul_comm 256]

/-- Ten bytes of a word hold a field. -/
theorem Instruction.fieldAt_le (word : Bytes) (place : Nat) :
    (Instruction.fieldAt word place).toNat ≤ Instruction.maxField := by
  have h := fromBigEndian_lt ((word.drop place).take 10)
  have hl : ((word.drop place).take 10).length ≤ 10 := List.length_take_le _ _
  have hp : Nat.pow 256 ((word.drop place).take 10).length ≤ Nat.pow 2 80 := Nat.pow_le_pow_right (by decide) hl
  simp only [Instruction.fieldAt, BitVec.toNat_ofNat, Instruction.maxField]
  exact Nat.le_sub_one_of_lt (Nat.lt_of_le_of_lt (Nat.mod_le _ _) (Nat.lt_of_lt_of_le h hp))

/-- What a word unpacks to fits its fields. -/
theorem Instruction.fits_unpack (word : Bytes) : (Instruction.unpack word).2.2.Fits :=
  ⟨fieldAt_le word 2, fieldAt_le word 12, fieldAt_le word 22⟩

/-- Instructions in the layout they are encoded with. -/
inductive ClipboardLayout where
  | static
  | single (instruction : Instruction)
  | multi (first : Instruction) (rest : List Instruction)
deriving DecidableEq

namespace ClipboardLayout

/-- The kind of a layout. -/
def kind : ClipboardLayout → ClipboardKind
  | .static => .static
  | .single _ => .single
  | .multi _ _ => .multi

/-- The instructions in order. -/
def instructions : ClipboardLayout → List Instruction
  | .static => []
  | .single i => [i]
  | .multi first rest => first :: rest

/-- The layout of what a caller asks for; an empty list of instructions is static. -/
def ofParams : PasteParams → ClipboardLayout
  | .empty => .static
  | .flat i => .single i
  | .nested [] => .static
  | .nested (first :: rest) => .multi first rest

end ClipboardLayout

/-- A checked clipboard. -/
structure Clipboard where
  layout : ClipboardLayout
  value : Uint256
  fits : ∀ i ∈ layout.instructions, i.Fits
deriving DecidableEq

namespace Clipboard

/-- The first field among some instructions that takes more than 80 bits. -/
def overflow? (instructions : List Instruction) : Option ClipboardError :=
  instructions.findSome? Instruction.overflow?

/-- Instructions without a field that is too wide all fit. -/
theorem fits_of_overflow? {instructions : List Instruction} (h : overflow? instructions = none) :
    ∀ i ∈ instructions, i.Fits := fun i hi =>
  (Instruction.overflow?_eq_none_iff i).1 (List.findSome?_eq_none_iff.1 h i hi)

/-- Checks a layout. -/
def ofLayout (layout : ClipboardLayout) (value : Uint256) : Except ClipboardError Clipboard :=
  match h : overflow? layout.instructions with
  | some e => .error e
  | none => .ok ⟨layout, value, fits_of_overflow? h⟩

/-- The clipboard for what a caller asks for. -/
def ofParams (params : PasteParams) (value : Uint256) : Except ClipboardError Clipboard :=
  ofLayout (.ofParams params) value

/-- No instructions and no value: the call is made as it is. -/
def empty : Clipboard := ⟨.static, 0, by simp [ClipboardLayout.instructions]⟩

/-- The kind of a clipboard. -/
def kind (c : Clipboard) : ClipboardKind := c.layout.kind

/-- The instructions of a clipboard in order. -/
def instructions (c : Clipboard) : List Instruction := c.layout.instructions

/-- The flag that says whether a value follows. -/
def valueFlag (c : Clipboard) : UInt8 := if c.value = 0 then 0 else 1

/-- The value behind the other parts, when there is one. -/
def valueParts (c : Clipboard) : List Abi.Part :=
  if c.value = 0 then [] else [Abi.uintPart c.value]

/-- The parts of the encoding before the value. -/
def layoutParts (c : Clipboard) : List Abi.Part :=
  match c.layout with
  | .static => [Abi.leftPart [c.kind.code, c.valueFlag]]
  | .single i => [.fixed (i.packed c.kind.code c.valueFlag)]
  | .multi first rest =>
    [Abi.leftPart [c.kind.code, c.valueFlag],
      Abi.arrayPart ((first :: rest).map fun i => .fixed (i.packed 0 0))]

/-- The encoding of a clipboard. -/
def toBytes (c : Clipboard) : Bytes :=
  Abi.params (c.layoutParts ++ c.valueParts)

/-- Checks and encodes what a caller asks for. -/
def encode (params : PasteParams) (value : Uint256) : Except ClipboardError Bytes :=
  (ofParams params value).map toBytes

/-- Encodes one instruction that addresses its places by words. -/
def encodeSlot (source copyWord pasteWord : Uint128) (value : Uint256) : Except ClipboardError Bytes :=
  match Instruction.slot source copyWord pasteWord with
  | .error e => .error e
  | .ok i => encode (.flat i) value

/-- Reads the kind and the value flag. -/
def decodeHeader (data : Bytes) : Except ClipboardError (ClipboardKind × Bool) :=
  if data.length < 32 then
    .error (.malformed ("expected at least 32 bytes, got " ++ toString data.length))
  else
    let code := data.getD 0 0
    let flag := data.getD 1 0
    match ClipboardKind.ofCode? code with
    | none => .error (.malformed ("unknown clipboard type " ++ toString code.toNat))
    | some kind =>
      if flag = 0 then .ok (kind, false)
      else if flag = 1 then .ok (kind, true)
      else .error (.malformed ("invalid value flag " ++ toString flag.toNat))

/-- A word that is one of several instructions: its prefix has to be zero. -/
def unpackPlain (word : Bytes) : Except ClipboardError { i : Instruction // i.Fits } :=
  let (first, second, _) := Instruction.unpack word
  if first = 0 ∧ second = 0 then .ok ⟨(Instruction.unpack word).2.2, Instruction.fits_unpack word⟩
  else .error (.malformed ("multi instruction carries prefix 0x" ++ String.ofList (Hex.digits [first, second])))

/-- Unpacks words in order, up to the first with a prefix. -/
def unpackAll : List Bytes → Except ClipboardError (List { i : Instruction // i.Fits })
  | [] => .ok []
  | word :: rest =>
    match unpackPlain word with
    | .error e => .error e
    | .ok i =>
      match unpackAll rest with
      | .error e => .error e
      | .ok is => .ok (i :: is)

/-- An encoding that the contract encoding cannot read. -/
def readError {α : Type} : Except Abi.Error α → Except ClipboardError α
  | .error e => .error (.malformed e.message)
  | .ok a => .ok a

/-- The value at a place, zero without the flag. -/
def valueAt (data : Bytes) (flag : Bool) (place : Nat) : Except ClipboardError Uint256 :=
  if flag then
    (readError (Abi.wordAt data place)).map fun word => BitVec.ofNat 256 (fromBigEndian word)
  else .ok 0

/-- The clipboard with a value that was read; a value that is announced is not zero. -/
def withValue (flag : Bool) (value : Uint256) (layout : ClipboardLayout)
    (fits : ∀ i ∈ layout.instructions, i.Fits) : Except ClipboardError Clipboard :=
  if flag ∧ value = 0 then .error (.malformed "value flag set but value is zero")
  else .ok ⟨layout, value, fits⟩

/-- Reads an encoding. What follows the last part is ignored, and so is the padding of a static header. -/
def decode (data : Bytes) : Except ClipboardError Clipboard :=
  match decodeHeader data with
  | .error e => .error e
  | .ok (kind, flag) =>
    match kind with
    | .static =>
      match valueAt data flag 32 with
      | .error e => .error e
      | .ok value => withValue flag value .static (by simp [ClipboardLayout.instructions])
    | .single =>
      match valueAt data flag 32 with
      | .error e => .error e
      | .ok value =>
        withValue flag value (.single (Instruction.unpack (data.take 32)).2.2)
          (by simpa [ClipboardLayout.instructions] using Instruction.fits_unpack (data.take 32))
    | .multi =>
      match readError (Abi.arrayAt Abi.wordAt data 32) with
      | .error e => .error e
      | .ok words =>
        match valueAt data flag 64 with
        | .error e => .error e
        | .ok value =>
          match unpackAll words with
          | .error e => .error e
          | .ok [] =>
            if flag ∧ value = 0 then .error (.malformed "value flag set but value is zero")
            else .error (.malformed "multi clipboard without instructions")
          | .ok (first :: rest) =>
            withValue flag value (.multi first.1 (rest.map (·.1))) (by
              intro i hi
              simp only [ClipboardLayout.instructions, List.mem_cons, List.mem_map] at hi
              rcases hi with rfl | ⟨j, _, rfl⟩
              · exact first.2
              · exact j.2)

end Clipboard

end CallWeave
