import CallWeave.CommandLine.Clipboard
import CallWeave.Proofs.Codec.InstructionLists
import CallWeave.Proofs.Codec.Octets
import CallWeave.Proofs.Codec.Slots
import CallWeave.Proofs.Codec.Stored
import CallWeave.Proofs.Json.Pretty
import CallWeave.Proofs.Json.Sizes

/-!
# Clipboard commands agree

What one clipboard command prints, another takes. The digits that `encode` prints are decoded, and the document that
`decode` prints for them is that of the clipboard that was asked for; a text never asks for more instructions than it
has characters, so all of them can be counted (`encodeText_eq_ok_iff`, `exists_run_decode_iff`). And `slot` is `encode`
of the three numbers that its words stand for, written in decimal: both succeed for the same reason
(`encodeSlotText_eq_ok_iff`, `encodeText_decimals_eq_ok_iff`).
-/

namespace CallWeave

/-! ## Blanks and digits -/

theorem Text.trim_of_forall_not_blank {text : String} (none : ∀ c ∈ text.toList, isBlank c = false) :
    trim text = text := by
  have kept {characters : List Char} (none : ∀ c ∈ characters, isBlank c = false) :
      dropBlanks characters = characters := by
    cases characters with
    | nil => rfl
    | cons c rest => exact List.dropWhile_cons_of_neg (by simp [none c List.mem_cons_self])
  have kept' : dropBlanks text.toList.reverse = text.toList.reverse :=
    kept fun c isIn => none c (List.mem_reverse.mp isIn)
  rw [trim, trimChars, kept none, kept', List.reverse_reverse, String.ofList_toList]

theorem Hex.isBlank_digit : ∀ value < 16, Text.isBlank (digit value) = false := by decide

theorem Hex.trim_encode (bytes : Bytes) : Text.trim (encode bytes) = encode bytes := by
  apply Text.trim_of_forall_not_blank
  rw [encode, String.toList_ofList]
  simp only [List.forall_mem_cons]
  refine ⟨by decide, by decide, ?_⟩
  induction bytes with
  | nil => exact List.forall_mem_nil _
  | cons byte rest ih =>
    obtain ⟨high, low⟩ := halves_lt byte
    rw [digits, List.forall_mem_cons, List.forall_mem_cons]
    exact ⟨isBlank_digit _ high, isBlank_digit _ low, ih⟩

/-! ## Decimal texts -/

namespace Numeral

/-- A text spells one number at most. -/
theorem SpellsPlain.unique {radix m n : Nat} {text : List Char} (one : SpellsPlain radix text m)
    (other : SpellsPlain radix text n) : m = n := by
  have read : plain radix (max m n + 1) text = .ok m := plain_eq_ok_iff.mpr ⟨one, by omega⟩
  have read' : plain radix (max m n + 1) text = .ok n := plain_eq_ok_iff.mpr ⟨other, by omega⟩
  exact Except.ok.inj (read.symm.trans read')

theorem spellsPlain_toString (number : Nat) : SpellsPlain 10 (toString number).toList number :=
  ⟨_, .inl rfl, spells_toString number⟩

theorem uint128_toString (number : Uint128) : uint128 (toString number.toNat) = .ok number := by
  have read : plain 10 (Nat.pow 2 128) (toString number.toNat).toList = .ok number.toNat :=
    plain_eq_ok_iff.mpr ⟨spellsPlain_toString _, number.isLt⟩
  rw [uint128, read, Except.map, BitVec.ofNat_toNat, BitVec.setWidth_eq]

end Numeral

namespace PasteParams

/-- The decimal text of a number is a field exactly if the number has 128 bits. -/
theorem fieldWritten_toString_iff {number : Nat} {field : Uint128} :
    FieldWritten (.string (toString number)) field ↔ field.toNat = number := by
  constructor
  · intro written
    cases written with
    | decimal spelled => exact spelled.unique (Numeral.spellsPlain_toString number)
    | hexadecimal behind => exact absurd (behind ▸ Numeral.spellsPlain_toString number) not_spellsPlain_prefixed
  · rintro rfl
    exact .decimal (Numeral.spellsPlain_toString _)

/-- The list of the decimal texts of three numbers. -/
def decimals (source copy paste : Nat) : Json :=
  .array [.string (toString source), .string (toString copy), .string (toString paste)]

/-- It asks for the one instruction with these fields, if there is one. -/
theorem written_decimals_iff {source copy paste : Nat} {params : PasteParams} :
    Written (decimals source copy paste) params ↔
      ∃ i : Instruction, params = .flat i ∧ i.source.toNat = source ∧ i.copy.toNat = copy ∧ i.paste.toNat = paste := by
  rw [decimals]
  constructor
  · intro written
    cases written with
    | @flat _ i one =>
      obtain ⟨isSource, isCopy, isPaste⟩ := one
      exact ⟨i, rfl, fieldWritten_toString_iff.mp isSource, fieldWritten_toString_iff.mp isCopy,
        fieldWritten_toString_iff.mp isPaste⟩
    | nested all =>
      -- a text is no instruction
      cases all with
      | cons first => cases first
  · rintro ⟨i, rfl, rfl, rfl, rfl⟩
    exact .flat (.fields (fieldWritten_toString_iff.mpr rfl) (fieldWritten_toString_iff.mpr rfl)
      (fieldWritten_toString_iff.mpr rfl))

/-- A document asks for no more instructions than it has entries. -/
theorem Written.length_instructions_le {json : Json} {params : PasteParams} (written : Written json params) :
    params.instructions.length ≤ json.entries := by
  cases written with
  | empty => exact Nat.le_refl 0
  | flat one =>
    cases one
    exact Nat.le_add_left 1 2
  | nested all => exact Nat.le_of_eq all.length_eq.symm

end PasteParams

namespace CommandLine

variable {instructions text printed : String} {value : Option String} {params : PasteParams} {bytes : Bytes}
  {source copy paste : Uint128} {c : Clipboard}

/-! ## Encoding -/

/-- What is encoded for some instructions and a value is a clipboard, whatever becomes of a failure. -/
theorem mapError_encode_eq_ok_iff {Reason : Type} (reason : ClipboardError → Reason) {amount : Uint256} :
    (CallWeave.Clipboard.encode params amount).mapError reason = .ok bytes ↔
      ∃ c, CallWeave.Clipboard.ofParams params amount = .ok c ∧ c.toBytes = bytes := by
  rw [CallWeave.Clipboard.encode]
  cases CallWeave.Clipboard.ofParams params amount with
  | error => simp [Except.map, Except.mapError]
  | ok => simp only [Except.map, Except.mapError, Except.ok.injEq, exists_eq_left']

/-- The instructions and the value are read for that. -/
theorem encodeText_eq_ok_iff :
    encodeText instructions value = .ok bytes ↔
      ∃ params amount c, paramsOf instructions = .ok params ∧ valueOf value = .ok amount ∧
        CallWeave.Clipboard.ofParams params amount = .ok c ∧ c.toBytes = bytes := by
  rw [encodeText]
  cases paramsOf instructions with
  | error => simp
  | ok params =>
    cases valueOf value with
    | error => simp
    | ok amount => simp [mapError_encode_eq_ok_iff]

/-- Or the words of one instruction. -/
theorem encodeSlotText_eq_ok_iff :
    encodeSlotText (toString source.toNat) (toString copy.toNat) (toString paste.toNat) value = .ok bytes ↔
      ∃ i amount c, Instruction.slot source copy paste = .ok i ∧ valueOf value = .ok amount ∧
        CallWeave.Clipboard.ofParams (.flat i) amount = .ok c ∧ c.toBytes = bytes := by
  have index (what : String) (number : Uint128) : indexOf what (toString number.toNat) = .ok number := by
    rw [indexOf, Numeral.uint128_toString, Except.mapError]
  simp only [encodeSlotText, index]
  cases valueOf value with
  | error => simp
  | ok amount =>
    simp only [CallWeave.Clipboard.encodeSlot]
    cases Instruction.slot source copy paste with
    | error => simp [Except.mapError]
    | ok i => simp [mapError_encode_eq_ok_iff]

/-- A text is read as the instructions that its document asks for. -/
theorem paramsOf_eq_ok_iff :
    paramsOf text = .ok params ↔
      ∃ json, (Json.parse? text).bind Json.value? = some json ∧ PasteParams.Written json params := by
  rw [paramsOf]
  cases (Json.parse? text).bind Json.value? with
  | none => simp
  | some json =>
    simp only [Option.some.injEq, exists_eq_left', ← PasteParams.ofJson_eq_ok_iff]
    cases PasteParams.ofJson json <;> simp [Except.mapError]

/-- It has more characters than these. -/
theorem length_instructions_lt (read : paramsOf text = .ok params) : params.instructions.length < text.length := by
  obtain ⟨json, isJson, written⟩ := paramsOf_eq_ok_iff.mp read
  obtain ⟨document, parsed, isValue⟩ := Option.bind_eq_some_iff.mp isJson
  obtain ⟨items, rfl⟩ : ∃ items, json = .array items := by
    cases written with
    | empty => exact ⟨_, rfl⟩
    | flat one =>
      cases one
      exact ⟨_, rfl⟩
    | nested => exact ⟨_, rfl⟩
  calc params.instructions.length
    _ ≤ (Json.array items).entries := written.length_instructions_le
    _ = document.entries := (Json.entries_of_value?_eq_array isValue).symm
    _ < text.length := Json.entries_lt_length_of_parse? parsed

/-! ## Decoding -/

/-- The clipboard that a document stands for. -/
def clipboardOf? (document : String) : Option (Except ClipboardError Clipboard) :=
  ((Json.parse? document).bind StoredClipboard.ofJson?).map Clipboard.ofStored

/-- The document that is printed for a clipboard stands for it. -/
theorem clipboardOf?_pretty (c : Clipboard) : clipboardOf? c.toStored.toJson.pretty = some (.ok c) := by
  rw [clipboardOf?, Json.parse?_pretty c.toStored.legible_toJson, Option.bind_some, StoredClipboard.ofJson?_toJson,
    Option.map_some, Clipboard.ofStored_eq_ok_iff.mpr rfl]

theorem run_decode_encode (bytes : Bytes) :
    (ClipboardCommand.decode (Hex.encode bytes)).run =
      ((CallWeave.Clipboard.decode bytes).mapError .clipboard).map fun c => c.toStored.toJson.pretty := by
  rw [ClipboardCommand.run, decodeText, Hex.trim_encode, Hex.decode_encode]

/-- The digits of a clipboard are decoded into a document that stands for it, as long as the reader can count its
instructions. -/
theorem exists_run_decode_iff (c : Clipboard) :
    (∃ document, (ClipboardCommand.decode (Hex.encode c.toBytes)).run = .ok document ∧
      clipboardOf? document = some (.ok c)) ↔ c.instructions.length < 2 ^ 64 := by
  rw [run_decode_encode]
  constructor
  · rintro ⟨document, decoded, standsFor⟩
    cases read : CallWeave.Clipboard.decode c.toBytes with
    | error =>
      rw [read] at decoded
      cases decoded
    | ok d =>
      rw [read] at decoded
      cases decoded
      rw [clipboardOf?_pretty] at standsFor
      cases standsFor
      exact Clipboard.length_instructions_of_decode read
  · intro held
    have read := Clipboard.decode_toBytes held []
    rw [List.append_nil] at read
    rw [read]
    exact ⟨_, rfl, clipboardOf?_pretty c⟩

/-! ## Slots -/

/-- The three numbers that the words of a slot stand for are read as the instruction with these fields. -/
theorem paramsOf_decimals_eq_ok_iff
    (parsed : Json.parse? text =
      some (PasteParams.decimals source.toNat (32 + 32 * copy.toNat) (36 + 32 * paste.toNat))) :
    paramsOf text = .ok params ↔ ∃ i : Instruction, params = .flat i ∧ i.source = source ∧
      i.copy.toNat = 32 + 32 * copy.toNat ∧ i.paste.toNat = 36 + 32 * paste.toNat := by
  have isValue (a b c : Nat) : (PasteParams.decimals a b c).value? = some (PasteParams.decimals a b c) := by rfl
  rw [paramsOf_eq_ok_iff, parsed, Option.bind_some, isValue]
  simp only [Option.some.injEq, exists_eq_left', PasteParams.written_decimals_iff, BitVec.toNat_inj]

/-- So they are encoded exactly if the slot is, and as the same clipboard. -/
theorem encodeSlotText_eq_ok_iff_encodeText
    (parsed : Json.parse? text =
      some (PasteParams.decimals source.toNat (32 + 32 * copy.toNat) (36 + 32 * paste.toNat))) :
    encodeSlotText (toString source.toNat) (toString copy.toNat) (toString paste.toNat) value = .ok bytes ↔
      encodeText text value = .ok bytes := by
  rw [encodeSlotText_eq_ok_iff, encodeText_eq_ok_iff]
  constructor
  · rintro ⟨i, amount, c, accepted, isValue, made⟩
    obtain ⟨isSource, copied, pasted, -⟩ := Instruction.slot_eq_ok_iff.mp accepted
    exact ⟨_, amount, c, (paramsOf_decimals_eq_ok_iff parsed).mpr ⟨i, rfl, isSource, copied, pasted⟩, isValue, made⟩
  · rintro ⟨params, amount, c, read, isValue, made, encoded⟩
    obtain ⟨i, rfl, isSource, copied, pasted⟩ := (paramsOf_decimals_eq_ok_iff parsed).mp read
    -- the check that a slot has to pass is the one that a clipboard has passed
    have fits : i.Fits := by
      have inside : i ∈ c.layout.instructions := by
        rw [(Clipboard.ofParams_eq_ok_iff.mp made).1]
        exact List.mem_singleton_self i
      exact c.fits i inside
    exact ⟨i, amount, c, Instruction.slot_eq_ok_iff.mpr ⟨isSource, copied, pasted, fits⟩, isValue, made, encoded⟩

/-- A slot is encoded exactly if its value is read and its source and both offsets, as natural numbers, fit 80 bits. -/
theorem exists_encodeSlotText_iff :
    (∃ bytes, encodeSlotText (toString source.toNat) (toString copy.toNat) (toString paste.toNat) value = .ok bytes) ↔
      (∃ amount, valueOf value = .ok amount) ∧ source.toNat ≤ Instruction.maxField ∧
        32 + 32 * copy.toNat ≤ Instruction.maxField ∧ 36 + 32 * paste.toNat ≤ Instruction.maxField := by
  rw [← Instruction.exists_slot_iff]
  simp only [encodeSlotText_eq_ok_iff]
  constructor
  · rintro ⟨bytes, i, amount, c, accepted, isValue, -⟩
    exact ⟨⟨amount, isValue⟩, i, accepted⟩
  · rintro ⟨⟨amount, isValue⟩, i, accepted⟩
    obtain ⟨-, -, -, fits⟩ := Instruction.slot_eq_ok_iff.mp accepted
    have allFit : ∀ inside ∈ (ClipboardLayout.ofParams (.flat i)).instructions, inside.Fits :=
      List.forall_mem_singleton.mpr fits
    exact ⟨_, i, amount, _, accepted, isValue, Clipboard.ofParams_of_fits allFit amount, rfl⟩

/-! ## Commands -/

/-- What a command prints for bytes are their digits. -/
theorem map_encode_eq_ok_iff {made : Except Failure Bytes} :
    made.map Hex.encode = .ok printed ↔ ∃ bytes, made = .ok bytes ∧ Hex.encode bytes = printed := by
  cases made <;> simp [Except.map]

/-- Whatever `encode` accepts is a clipboard, for the instructions and the value that were read, and `decode` turns the
printed digits into a document that stands for exactly this clipboard. For this the reader has to count the
instructions with 64 bits, and there are fewer of them than characters in their text, so it can for every text that
memory holds. And `slot` prints what `encode` prints for the list of the decimal texts of the three numbers that its
words stand for, and fails when it fails, which is when the value cannot be read or one of these numbers does not fit
80 bits. -/
theorem clipboard_commands_agree :
    (∀ instructions value printed, (ClipboardCommand.encode instructions value).run = .ok printed →
      ∃ params amount c, paramsOf instructions = .ok params ∧ valueOf value = .ok amount ∧
        CallWeave.Clipboard.ofParams params amount = .ok c ∧ params.instructions.length < instructions.length ∧
        ((∃ document, (ClipboardCommand.decode printed).run = .ok document ∧
          clipboardOf? document = some (.ok c)) ↔ params.instructions.length < 2 ^ 64)) ∧
    ∀ (source copy paste : Uint128) (value : Option String),
      let numbers := PasteParams.decimals source.toNat (32 + 32 * copy.toNat) (36 + 32 * paste.toNat)
      let slot := ClipboardCommand.slot (toString source.toNat) (toString copy.toNat) (toString paste.toNat) value
      Json.parse? numbers.compact = some numbers ∧
      (∀ text, Json.parse? text = some numbers → ∀ printed,
        slot.run = .ok printed ↔ (ClipboardCommand.encode text value).run = .ok printed) ∧
      ((∃ printed, slot.run = .ok printed) ↔
        (∃ amount, valueOf value = .ok amount) ∧ source.toNat ≤ Instruction.maxField ∧
          32 + 32 * copy.toNat ≤ Instruction.maxField ∧ 36 + 32 * paste.toNat ≤ Instruction.maxField) := by
  refine ⟨fun instructions value printed accepted => ?_, fun source copy paste value => ⟨?_, ?_, ?_⟩⟩
  · rw [ClipboardCommand.run, map_encode_eq_ok_iff] at accepted
    obtain ⟨bytes, encoded, rfl⟩ := accepted
    obtain ⟨params, amount, c, read, isValue, made, rfl⟩ := encodeText_eq_ok_iff.mp encoded
    have same : c.instructions = params.instructions := by
      rw [Clipboard.instructions, (Clipboard.ofParams_eq_ok_iff.mp made).1, ClipboardLayout.instructions_ofParams]
    exact ⟨params, amount, c, read, isValue, made, length_instructions_lt read, same ▸ exists_run_decode_iff c⟩
  · refine Json.parse?_compact (.array ?_)
    simp only [List.forall_mem_cons]
    exact ⟨.string _, .string _, .string _, List.forall_mem_nil _⟩
  · intro text parsed printed
    simp only [ClipboardCommand.run, map_encode_eq_ok_iff, encodeSlotText_eq_ok_iff_encodeText parsed]
  · simp only [ClipboardCommand.run, map_encode_eq_ok_iff]
    rw [← exists_encodeSlotText_iff, exists_comm]
    simp

/-- The clipboard that copies the first word of what call 4 returns into the third argument. -/
def oneSlot : Clipboard := ⟨.single ⟨4, 32, 100⟩, 0, by decide⟩

/-- Its digits. -/
def oneSlotText : String := "0x0100000000000000000000040000000000000000002000000000000000000064"

/-- A text that asks for its instruction is encoded as its digits. -/
theorem run_encode_oneSlot {json : Json} (parsed : Json.parse? text = some json)
    (asked : json.value?.map PasteParams.ofJson = some (.ok (.flat ⟨4, 32, 100⟩))) :
    (ClipboardCommand.encode text none).run = .ok oneSlotText := by
  obtain ⟨_, isValue, read⟩ := Option.map_eq_some_iff.mp asked
  have params : paramsOf text = .ok (.flat ⟨4, 32, 100⟩) :=
    paramsOf_eq_ok_iff.mpr ⟨_, by rw [parsed, Option.bind_some, isValue], PasteParams.ofJson_eq_ok_iff.mp read⟩
  have made : CallWeave.Clipboard.ofParams (.flat ⟨4, 32, 100⟩) 0 = .ok oneSlot :=
    Clipboard.ofParams_eq_ok_iff.mpr ⟨rfl, rfl⟩
  have bytes : oneSlot.toBytes =
      [1, 0, 0, 0, 0, 0, 0, 0, 0, 0, 0, 4, 0, 0, 0, 0, 0, 0, 0, 0, 0, 32, 0, 0, 0, 0, 0, 0, 0, 0, 0, 100] := by decide
  exact map_encode_eq_ok_iff.mpr ⟨_, encodeText_eq_ok_iff.mpr ⟨_, 0, _, params, rfl, made, bytes⟩, rfl⟩

/-- These digits are decoded, and are what is printed for the slot. -/
theorem oneSlot_agreed :
    (∃ document, (ClipboardCommand.decode oneSlotText).run = .ok document ∧
      clipboardOf? document = some (CallWeave.Clipboard.ofParams (.flat ⟨4, 32, 100⟩) 0)) ∧
    (ClipboardCommand.slot "4" "0" "2" none).run = .ok oneSlotText := by
  obtain ⟨encoded, agreed⟩ := clipboard_commands_agree
  have parsed : Json.parse? "[4,32,100]" = some (.array [.int 4, .int 32, .int 100]) := by rfl
  have parsed' : Json.parse? "[\"4\",\"32\",\"100\"]" = some (PasteParams.decimals 4 32 100) := by rfl
  constructor
  · obtain ⟨params, amount, c, read, isValue, made, -, decoded⟩ :=
      encoded _ none _ (run_encode_oneSlot parsed (by rfl))
    rw [paramsOf, parsed] at read
    cases read
    cases isValue
    exact made ▸ decoded.mpr (by decide)
  · exact ((agreed 4 0 2 none).2.1 _ parsed' _).mpr (run_encode_oneSlot parsed' (by rfl))

end CommandLine

end CallWeave
