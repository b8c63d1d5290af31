import CallWeave.Proofs.Codec.Clipboards

/-!
# Instructions that address words

A slot names a place by the number of a word, an instruction by the number of a byte. Over the natural numbers
the offset of a word is `32 + 32 * word` in return data and `36 + 32 * word` in arguments. Offsets are formed
with 128 bits and have to fit 80 of them afterwards, and the two checks together are the one that the numbers
call for: a slot is accepted exactly if all its offsets fit 80 bits, and is then the instruction with these
offsets (`Instruction.slot_eq_ok_iff`). So a product that wraps around addresses no other word, and different
slots never have one encoding (`Clipboard.encodeSlot_counts_words`).
-/

namespace CallWeave

namespace Instruction

variable {field : String} {base : Nat} {word source copyWord pasteWord : Uint128} {e : ClipboardError}
  {i : Instruction}

/-! ## Offsets -/

/-- The offset of a word is formed exactly if it is a number of 128 bits. -/
theorem offsetOfWord_eq_ok_iff {offset : Uint128} :
    offsetOfWord field base word = .ok offset ↔ offset.toNat = base + 32 * word.toNat := by
  have bound : Nat.pow 2 128 = 2 ^ 128 := rfl
  have isWord := offset.isLt
  rw [offsetOfWord, bound]
  split
  case isTrue fits =>
    rw [Except.ok.injEq, BitVec.toNat_eq, BitVec.toNat_ofNat, Nat.mod_eq_of_lt fits]
    omega
  case isFalse isWide =>
    simp only [reduceCtorEq, false_iff]
    omega

/-- Otherwise the word is reported. -/
theorem offsetOfWord_eq_error_iff :
    offsetOfWord field base word = .error e ↔
      2 ^ 128 ≤ base + 32 * word.toNat ∧ e = .offsetOverflow field word := by
  have bound : Nat.pow 2 128 = 2 ^ 128 := rfl
  rw [offsetOfWord, bound]
  split
  case isTrue fits =>
    simp only [reduceCtorEq, false_iff, not_and]
    omega
  case isFalse isWide =>
    rw [Except.error.injEq, eq_comm (a := e), iff_and_self]
    omega

/-! ## Slots -/

/-- With both offsets formed, a slot is their instruction, unless a field of it is too wide. -/
theorem slot_of_offsets {copy paste : Uint128} (copied : copy.toNat = 32 + 32 * copyWord.toNat)
    (pasted : paste.toNat = 36 + 32 * pasteWord.toNat) :
    slot source copyWord pasteWord =
      match overflow? ⟨source, copy, paste⟩ with
      | some e => .error e
      | none => .ok ⟨source, copy, paste⟩ := by
  cases wide : overflow? ⟨source, copy, paste⟩ with
  | none =>
    simp only [slot, offsetOfWord_eq_ok_iff.mpr copied, offsetOfWord_eq_ok_iff.mpr pasted, wide]
  | some e =>
    simp only [slot, offsetOfWord_eq_ok_iff.mpr copied, offsetOfWord_eq_ok_iff.mpr pasted, wide]

/-- A slot is refused for a field or a word that is too wide. -/
theorem exists_slot_eq_error (refused : slot source copyWord pasteWord = .error e) :
    ∃ field wide, e = .offsetOverflow field wide := by
  rw [slot] at refused
  split at refused
  case h_1 e' copied =>
    obtain rfl := Except.error.inj refused
    exact ⟨_, _, (offsetOfWord_eq_error_iff.mp copied).2⟩
  case h_2 copy copied =>
    split at refused
    case h_1 e' pasted =>
      obtain rfl := Except.error.inj refused
      exact ⟨_, _, (offsetOfWord_eq_error_iff.mp pasted).2⟩
    case h_2 paste pasted =>
      obtain ⟨field, -, found⟩ : ∃ field ∈ fields ⟨source, copy, paste⟩, e = .offsetOverflow field.1 field.2 := by
        simp only at refused
        split at refused
        case h_1 e' wide =>
          obtain rfl := Except.error.inj refused
          rw [overflow?] at wide
          obtain ⟨field, first, same⟩ := Option.map_eq_some_iff.mp wide
          exact ⟨field, List.mem_of_find?_eq_some first, same.symm⟩
        case h_2 => cases refused
      exact ⟨_, _, found⟩

/-- A slot is the instruction with the offsets of its words, when these fit. -/
theorem slot_eq_ok_iff :
    slot source copyWord pasteWord = .ok i ↔
      i.source = source ∧ i.copy.toNat = 32 + 32 * copyWord.toNat ∧ i.paste.toNat = 36 + 32 * pasteWord.toNat ∧
        i.Fits := by
  constructor
  · intro accepted
    simp only [slot] at accepted
    split at accepted
    case h_1 => cases accepted
    case h_2 copy copied =>
      split at accepted
      case h_1 => cases accepted
      case h_2 paste pasted =>
        split at accepted
        case h_1 => cases accepted
        case h_2 narrow =>
          obtain rfl := Except.ok.inj accepted
          exact ⟨rfl, offsetOfWord_eq_ok_iff.mp copied, offsetOfWord_eq_ok_iff.mp pasted,
            (overflow?_eq_none_iff _).mp narrow⟩
  · rintro ⟨rfl, copied, pasted, fits⟩
    rw [slot_of_offsets copied pasted, (overflow?_eq_none_iff _).mpr fits]

/-- It is accepted exactly if the source and both offsets, as natural numbers, fit 80 bits. -/
theorem exists_slot_iff :
    (∃ i, slot source copyWord pasteWord = .ok i) ↔
      source.toNat ≤ maxField ∧ 32 + 32 * copyWord.toNat ≤ maxField ∧ 36 + 32 * pasteWord.toNat ≤ maxField := by
  constructor
  · rintro ⟨i, accepted⟩
    obtain ⟨rfl, copied, pasted, fits⟩ := slot_eq_ok_iff.mp accepted
    rwa [Fits, copied, pasted] at fits
  · rintro ⟨sourceFits, copyFits, pasteFits⟩
    have wide : maxField < 2 ^ 128 := by decide
    have exact (offset : Nat) (fits : offset ≤ maxField) : (BitVec.ofNat 128 offset).toNat = offset := by
      rw [BitVec.toNat_ofNat, Nat.mod_eq_of_lt (Nat.lt_of_le_of_lt fits wide)]
    refine ⟨⟨source, BitVec.ofNat 128 (32 + 32 * copyWord.toNat), BitVec.ofNat 128 (36 + 32 * pasteWord.toNat)⟩,
      slot_eq_ok_iff.mpr ⟨rfl, exact _ copyFits, exact _ pasteFits, sourceFits, ?_, ?_⟩⟩
    · rwa [exact _ copyFits]
    · rwa [exact _ pasteFits]

/-- A number of 64 bits is one of 128 bits. -/
theorem toNat_ofUInt64 (number : UInt64) : (BitVec.ofNat 128 number.toNat).toNat = number.toNat := by
  have isWord := number.toNat_lt
  rw [BitVec.toNat_ofNat, Nat.mod_eq_of_lt (by omega)]

/-- Words and positions of 64 bits are always accepted. -/
theorem exists_slot_of_uint64 (source copyWord pasteWord : UInt64) :
    ∃ i, slot (.ofNat 128 source.toNat) (.ofNat 128 copyWord.toNat) (.ofNat 128 pasteWord.toNat) = .ok i := by
  have bound : maxField = 2 ^ 80 - 1 := rfl
  have sourceSmall := source.toNat_lt
  have copySmall := copyWord.toNat_lt
  have pasteSmall := pasteWord.toNat_lt
  rw [exists_slot_iff, toNat_ofUInt64, toNat_ofUInt64, toNat_ofUInt64, bound]
  omega

end Instruction

/-! ## Encodings -/

namespace Clipboard

variable {source copyWord pasteWord : Uint128} {value value' : Uint256} {i i' : Instruction} {bytes : Bytes}

/-- An instruction that fits is encoded as the clipboard that holds it alone. -/
theorem encode_flat (fits : i.Fits) (value : Uint256) :
    encode (.flat i) value = .ok (toBytes ⟨.single i, value, by simpa [ClipboardLayout.instructions] using fits⟩) := by
  have fits : ∀ inside ∈ (ClipboardLayout.ofParams (.flat i)).instructions, inside.Fits := by
    simpa [ClipboardLayout.ofParams, ClipboardLayout.instructions] using fits
  rw [encode, ofParams_of_fits fits]
  rfl

/-- Another is refused for the field that is too wide. -/
theorem encode_flat_of_overflow? {e : ClipboardError} (wide : i.overflow? = some e) (value : Uint256) :
    encode (.flat i) value = .error e := by
  have found : overflow? (PasteParams.flat i).instructions = some e := by
    simp [overflow?, PasteParams.instructions, wide]
  rw [encode, ofParams_of_overflow? found]
  rfl

/-- Equal encodings of one instruction each are those of one instruction and one value. -/
theorem eq_of_encode_flat_eq (fits : i.Fits) (fits' : i'.Fits) (one : encode (.flat i) value = .ok bytes)
    (other : encode (.flat i') value' = .ok bytes) : i = i' ∧ value = value' := by
  rw [encode_flat fits] at one
  rw [encode_flat fits'] at other
  have same := toBytes_injective (Except.ok.inj (one.trans other.symm))
  simpa using same

/-- Where the offsets of a slot are numbers of 128 bits, encoding the slot is encoding the instruction with these
offsets, and fails as that does. -/
theorem encodeSlot_of_offsets {copy paste : Uint128} (copied : copy.toNat = 32 + 32 * copyWord.toNat)
    (pasted : paste.toNat = 36 + 32 * pasteWord.toNat) (value : Uint256) :
    encodeSlot source copyWord pasteWord value = encode (.flat ⟨source, copy, paste⟩) value := by
  rw [encodeSlot, Instruction.slot_of_offsets copied pasted]
  cases wide : Instruction.overflow? ⟨source, copy, paste⟩ with
  | none => rfl
  | some e => rw [encode_flat_of_overflow? wide]

/-- A slot that is encoded has been accepted. -/
theorem encodeSlot_eq_ok_iff :
    encodeSlot source copyWord pasteWord value = .ok bytes ↔
      ∃ i, Instruction.slot source copyWord pasteWord = .ok i ∧ encode (.flat i) value = .ok bytes := by
  rw [encodeSlot]
  cases Instruction.slot source copyWord pasteWord <;> simp

/-- Slots are counted over the natural numbers. A slot is accepted exactly if its source and the offsets of its
words, as natural numbers, fit 80 bits, and is then the instruction with just these fields; any other is refused
for a field or word that is too wide. What is encoded for a slot is what is encoded for the instruction with these
offsets, as long as there is one, and no two slots or values that are accepted have one encoding. Words and positions
of 64 bits are always accepted. -/
theorem encodeSlot_counts_words (source copyWord pasteWord : Uint128) (value : Uint256) :
    ((∃ i, Instruction.slot source copyWord pasteWord = .ok i) ↔ source.toNat ≤ Instruction.maxField ∧
      32 + 32 * copyWord.toNat ≤ Instruction.maxField ∧ 36 + 32 * pasteWord.toNat ≤ Instruction.maxField) ∧
    (∀ i, Instruction.slot source copyWord pasteWord = .ok i → i.source.toNat = source.toNat ∧
      i.copy.toNat = 32 + 32 * copyWord.toNat ∧ i.paste.toNat = 36 + 32 * pasteWord.toNat ∧
      ∃ bytes, encodeSlot source copyWord pasteWord value = .ok bytes) ∧
    (∀ e, Instruction.slot source copyWord pasteWord = .error e →
      encodeSlot source copyWord pasteWord value = .error e ∧ ∃ field wide, e = .offsetOverflow field wide) ∧
    (∀ copy paste : Uint128, copy.toNat = 32 + 32 * copyWord.toNat → paste.toNat = 36 + 32 * pasteWord.toNat →
      encodeSlot source copyWord pasteWord value = encode (.flat ⟨source, copy, paste⟩) value) ∧
    (∀ source' copyWord' pasteWord' value' bytes, encodeSlot source copyWord pasteWord value = .ok bytes →
      encodeSlot source' copyWord' pasteWord' value' = .ok bytes →
      source = source' ∧ copyWord = copyWord' ∧ pasteWord = pasteWord' ∧ value = value') ∧
    ∀ source copyWord pasteWord : UInt64, ∃ i,
      Instruction.slot (.ofNat 128 source.toNat) (.ofNat 128 copyWord.toNat) (.ofNat 128 pasteWord.toNat) = .ok i := by
  refine ⟨Instruction.exists_slot_iff, fun i accepted => ?_, fun e refused => ⟨?_, ?_⟩,
    fun copy paste copied pasted => encodeSlot_of_offsets copied pasted value, ?_, Instruction.exists_slot_of_uint64⟩
  · obtain ⟨rfl, copied, pasted, fits⟩ := Instruction.slot_eq_ok_iff.mp accepted
    exact ⟨rfl, copied, pasted, _, encodeSlot_eq_ok_iff.mpr ⟨i, accepted, encode_flat fits value⟩⟩
  · rw [encodeSlot, refused]
  · exact Instruction.exists_slot_eq_error refused
  · intro source' copyWord' pasteWord' value' bytes one other
    obtain ⟨i, accepted, encoded⟩ := encodeSlot_eq_ok_iff.mp one
    obtain ⟨i', accepted', encoded'⟩ := encodeSlot_eq_ok_iff.mp other
    obtain ⟨rfl, copied, pasted, fits⟩ := Instruction.slot_eq_ok_iff.mp accepted
    obtain ⟨rfl, copied', pasted', fits'⟩ := Instruction.slot_eq_ok_iff.mp accepted'
    obtain ⟨rfl, rfl⟩ := eq_of_encode_flat_eq fits fits' encoded encoded'
    refine ⟨rfl, ?_, ?_, rfl⟩ <;> rw [BitVec.toNat_eq] <;> omega

/-- The word `2 ^ 123 + 1` is refused, though its offset with 128 bits would be that of the word `1`. -/
example : Instruction.slot 0 10633823966279326983230456482242756609 0 =
    .error (.offsetOverflow "copy word" 10633823966279326983230456482242756609) := rfl

/-- The last words that can be addressed, seen from the last position. -/
theorem lastWords_encoded :
    ∃ i bytes, Instruction.slot 1208925819614629174706175 37778931862957161709566 37778931862957161709566 = .ok i ∧
      i.source.toNat = 2 ^ 80 - 1 ∧ i.copy.toNat = 2 ^ 80 - 32 ∧ i.paste.toNat = 2 ^ 80 - 28 ∧
      encodeSlot 1208925819614629174706175 37778931862957161709566 37778931862957161709566 7 = .ok bytes ∧
      encode (.flat ⟨1208925819614629174706175, 1208925819614629174706144, 1208925819614629174706148⟩) 7 = .ok bytes ∧
      encodeSlot 1208925819614629174706175 37778931862957161709567 37778931862957161709566 7 ≠ .ok bytes := by
  obtain ⟨accepted, exact, -, same, apart, -⟩ :=
    encodeSlot_counts_words 1208925819614629174706175 37778931862957161709566 37778931862957161709566 7
  obtain ⟨i, slot⟩ := accepted.mpr (by decide)
  obtain ⟨source, copy, paste, bytes, encoded⟩ := exact i slot
  refine ⟨i, bytes, slot, source.trans rfl, copy.trans rfl, paste.trans rfl, encoded, ?_, fun encoded' => ?_⟩
  · rw [← encoded]
    exact (same _ _ rfl rfl).symm
  · exact absurd (apart _ _ _ _ _ encoded encoded').2.1 (by decide)

end Clipboard

end CallWeave
