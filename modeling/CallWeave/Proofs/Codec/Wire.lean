import CallWeave.Proofs.Codec.Clipboards

/-!
# The wire format of clipboards

The interpreter finds a clipboard by the places of its bytes, so the format fixes every one of them. A `WireField`
is a number of a given width, and `PasteParams.wire` is the table of the fields of what a caller asks for, word by
word. `SpelledBy` reads a table off some bytes, field by field and to their end; no other bytes have the same
reading (`SpelledBy.unique`). What is encoded has the reading that the table says
(`Clipboard.encode_spelled`).
-/

namespace CallWeave

/-! ## Fields -/

/-- A number in some bytes, most significant byte first. -/
structure WireField where
  /-- How many bytes it takes. -/
  width : Nat
  number : Nat

/-- Bytes are the fields of a table, one behind the other, and nothing else. -/
inductive SpelledBy : List WireField → Bytes → Prop
  | nil : SpelledBy [] []
  | cons {field : WireField} {fields : List WireField} {front behind : Bytes} (width : front.length = field.width)
      (number : fromBigEndian front = field.number) (rest : SpelledBy fields behind) :
      SpelledBy (field :: fields) (front ++ behind)

namespace SpelledBy

variable {fields fields' : List WireField} {bytes bytes' : Bytes}

/-- Tables that stand one behind the other spell bytes that do. -/
theorem append (first : SpelledBy fields bytes) (second : SpelledBy fields' bytes') :
    SpelledBy (fields ++ fields') (bytes ++ bytes') := by
  induction first with
  | nil => exact second
  | cons width number _ ih =>
    rw [List.append_assoc]
    exact .cons width number ih

/-- So it is for any number of tables. -/
theorem flatten {tables : List (List WireField)} {words : List Bytes} (each : List.Forall₂ SpelledBy tables words) :
    SpelledBy tables.flatten words.flatten := by
  induction each with
  | nil => exact .nil
  | cons first _ ih => exact first.append ih

/-- A table spells one string of bytes only. -/
theorem unique (one : SpelledBy fields bytes) (other : SpelledBy fields bytes') : bytes = bytes' := by
  induction one generalizing bytes' with
  | nil =>
    cases other
    rfl
  | cons width number _ ih =>
    cases other with
    | cons width' number' behind =>
      rw [eq_of_fromBigEndian_eq (width.trans width'.symm) (number.trans number'.symm), ih behind]

/-- A single byte. -/
theorem byte {number : Nat} {first : UInt8} (isNumber : first.toNat = number) (rest : SpelledBy fields bytes) :
    SpelledBy (⟨1, number⟩ :: fields) (first :: bytes) := by
  let field : WireField := ⟨1, number⟩
  have width : [first].length = field.width := rfl
  have spells : fromBigEndian [first] = field.number := by simp [fromBigEndian, isNumber, field]
  exact .cons width spells rest

/-- A number that fits its width, as it is written. -/
theorem bigEndian {width number : Nat} (fits : number < 256 ^ width) (rest : SpelledBy fields bytes) :
    SpelledBy (⟨width, number⟩ :: fields) (bigEndian width number ++ bytes) :=
  .cons (length_bigEndian width number) (fromBigEndian_bigEndian_of_lt fits) rest

/-- A number that fits its width, on its own. -/
theorem of_lt {width number : Nat} (fits : number < 256 ^ width) :
    SpelledBy [⟨width, number⟩] (CallWeave.bigEndian width number) := by
  have alone := bigEndian fits .nil
  rwa [List.append_nil] at alone

end SpelledBy

/-! ## Tables -/

/-- The fields of a word that packs an instruction behind a prefix of two bytes. -/
def Instruction.wire (i : Instruction) (first second : Nat) : List WireField :=
  [⟨1, first⟩, ⟨1, second⟩, ⟨10, i.source.toNat⟩, ⟨10, i.copy.toNat⟩, ⟨10, i.paste.toNat⟩]

/-- Whether a value is forwarded, as a byte. -/
def wireFlag (value : Uint256) : Nat := if 0 < value.toNat then 1 else 0

theorem wireFlag_le (value : Uint256) : wireFlag value ≤ 1 := by
  rw [wireFlag]
  split <;> decide

/-- The word of a header that stands alone. -/
def headerWire (kind : Nat) (value : Uint256) : List WireField := [⟨1, kind⟩, ⟨1, wireFlag value⟩, ⟨30, 0⟩]

/-- The word of a value, if one is forwarded. -/
def valueWire (value : Uint256) : List (List WireField) := if 0 < value.toNat then [[⟨32, value.toNat⟩]] else []

namespace PasteParams

/-- The fields of the encoding, word by word. -/
def wire (params : PasteParams) (value : Uint256) : List (List WireField) :=
  match params with
  | .empty | .nested [] => headerWire 0 value :: valueWire value
  | .flat i => i.wire 1 (wireFlag value) :: valueWire value
  | .nested (first :: rest) =>
    headerWire 2 value :: [⟨32, 64 + 32 * wireFlag value⟩] :: valueWire value ++
      [⟨32, (first :: rest).length⟩] :: (first :: rest).map (·.wire 0 0)

/-- The number of words of the encoding. -/
def wireLength (params : PasteParams) (value : Uint256) : Nat :=
  match params with
  | .empty | .nested [] | .flat _ => 1 + wireFlag value
  | .nested (first :: rest) => 3 + wireFlag value + (first :: rest).length

end PasteParams

/-! ## What is encoded -/

/-- The word of an instruction that fits has the fields of the instruction. -/
theorem Instruction.spelledBy_packed {i : Instruction} (fits : i.Fits) {first second : UInt8} {one two : Nat}
    (isFirst : first.toNat = one) (isSecond : second.toNat = two) :
    SpelledBy (i.wire one two) (i.packed first second) := by
  obtain ⟨source, copy, paste⟩ := fits
  have isSmall {n : Nat} (fits : n ≤ maxField) : n < 256 ^ 10 := Nat.lt_of_le_of_lt fits (by decide)
  rw [packed, List.append_assoc]
  have fields := SpelledBy.bigEndian (isSmall source) (.bigEndian (isSmall copy) (.of_lt (isSmall paste)))
  exact .byte isFirst (.byte isSecond fields)

namespace Clipboard

variable {c : Clipboard}

theorem pos_toNat_iff {value : Uint256} : 0 < value.toNat ↔ value ≠ 0 := by
  rw [Nat.pos_iff_ne_zero, Ne, Ne, BitVec.toNat_eq]
  exact Iff.rfl

theorem toNat_valueFlag (c : Clipboard) : c.valueFlag.toNat = wireFlag c.value := by
  rw [valueFlag, wireFlag]
  simp only [pos_toNat_iff, ne_eq, ite_not]
  split <;> rfl

/-- A header that stands alone is padded with zeros. -/
theorem spelledBy_headerWord (c : Clipboard) : SpelledBy (headerWire c.kind.code.toNat c.value) c.headerWord :=
  .byte rfl (.byte c.toNat_valueFlag (.of_lt (Nat.pow_pos (by decide))))

/-- The value stands in a word of its own, if there is one. -/
theorem spelledBy_valueWords (c : Clipboard) : List.Forall₂ SpelledBy (valueWire c.value) c.valueWords := by
  simp only [valueWire, valueWords, pos_toNat_iff, ne_eq, ite_not]
  split
  case isTrue => exact .nil
  case isFalse => exact .cons (.of_lt (Nat.lt_of_lt_of_eq c.value.isLt (by decide))) .nil

/-- As many words as the flag says. -/
theorem length_valueWords (c : Clipboard) : c.valueWords.length = wireFlag c.value := by
  simp only [wireFlag, valueWords, pos_toNat_iff, ne_eq, ite_not]
  split <;> rfl

/-- The words of an encoding have the fields of the table. -/
theorem spelledBy_words (params : PasteParams) (value : Uint256)
    (fits : ∀ i ∈ (ClipboardLayout.ofParams params).instructions, i.Fits)
    (counted : params.instructions.length < 2 ^ 256) :
    List.Forall₂ SpelledBy (params.wire value) (words ⟨.ofParams params, value, fits⟩) := by
  let c : Clipboard := ⟨.ofParams params, value, fits⟩
  have header := c.spelledBy_headerWord
  have behind := c.spelledBy_valueWords
  have flag := c.toNat_valueFlag
  rcases params with _ | i | (_ | ⟨first, rest⟩)
  case empty => exact .cons header behind
  case nested.nil => exact .cons header behind
  case flat =>
    have packed : SpelledBy (i.wire 1 (wireFlag value)) (i.packed c.kind.code c.valueFlag) :=
      Instruction.spelledBy_packed (fits i List.mem_cons_self) rfl flag
    exact .cons packed behind
  case nested.cons =>
    have place : SpelledBy [⟨32, 64 + 32 * wireFlag value⟩] (Abi.numberWord (64 + 32 * c.valueWords.length)) := by
      have isSmall : 64 + 32 * wireFlag value < 256 ^ 32 :=
        Nat.lt_of_le_of_lt (Nat.add_le_add_left (Nat.mul_le_mul_left 32 (wireFlag_le value)) 64) (by decide)
      rw [c.length_valueWords]
      exact .of_lt isSmall
    have count : SpelledBy [⟨32, (first :: rest).length⟩] (Abi.numberWord (rest.length + 1)) :=
      .of_lt (Nat.lt_of_lt_of_eq counted (by decide))
    have packed : List.Forall₂ SpelledBy ((first :: rest).map (·.wire 0 0)) ((first :: rest).map (·.packed 0 0)) := by
      rw [List.forall₂_map_left_iff, List.forall₂_map_right_iff, List.forall₂_same]
      exact fun i isIn => Instruction.spelledBy_packed (fits i isIn) rfl rfl
    exact List.rel_append (.cons header (.cons place behind)) (.cons count packed)

/-- The table has as many words as the format says. -/
theorem length_wire (params : PasteParams) (value : Uint256) :
    (params.wire value).length = params.wireLength value := by
  have behind : (valueWire value).length = wireFlag value := by
    rw [valueWire, wireFlag]
    split <;> rfl
  rcases params with _ | i | (_ | ⟨first, rest⟩) <;>
    simp only [PasteParams.wire, PasteParams.wireLength, List.length_cons, List.length_append, List.length_map,
      behind] <;>
    omega

/-- What fits is encoded as the bytes, and as no others, that have the fields of the table, in as many words as the
format says. The number of instructions has to fit its word, as that of any list in memory does. -/
theorem encode_spelled (params : PasteParams) (value : Uint256) (fits : ∀ i ∈ params.instructions, i.Fits)
    (counted : params.instructions.length < 2 ^ 256) :
    ∃ bytes, encode params value = .ok bytes ∧ bytes.length = 32 * params.wireLength value ∧
      ∀ other, SpelledBy (params.wire value).flatten other ↔ other = bytes := by
  rw [← ClipboardLayout.instructions_ofParams] at fits
  have words := spelledBy_words params value fits counted
  have spelled : SpelledBy (params.wire value).flatten (toBytes ⟨.ofParams params, value, fits⟩) := by
    rw [toBytes_eq_flatten]
    exact .flatten words
  refine ⟨_, by rw [encode, ofParams_of_fits fits]; rfl, ?_, fun other => ⟨fun same => same.unique spelled, ?_⟩⟩
  · rw [length_toBytes, ← words.length_eq, length_wire]
  · rintro rfl
    exact spelled

/-- Two instructions with fields of all sizes and the largest value. -/
theorem widePastes_spelled :
    ∃ bytes, encode widePastes (-1) = .ok bytes ∧ bytes.length = 192 ∧
      SpelledBy [⟨1, 2⟩, ⟨1, 1⟩, ⟨30, 0⟩, ⟨32, 96⟩, ⟨32, 2 ^ 256 - 1⟩, ⟨32, 2⟩,
        ⟨1, 0⟩, ⟨1, 0⟩, ⟨10, 0⟩, ⟨10, 32⟩, ⟨10, 36⟩, ⟨1, 0⟩, ⟨1, 0⟩, ⟨10, 2 ^ 80 - 1⟩, ⟨10, 0⟩, ⟨10, 1⟩] bytes := by
  have fits : ∀ i ∈ widePastes.instructions, i.Fits := by decide
  obtain ⟨bytes, encoded, length, spelled⟩ := encode_spelled widePastes (-1) fits (by decide)
  exact ⟨bytes, encoded, length, (spelled bytes).mpr rfl⟩

end Clipboard

end CallWeave
