import CallWeave.Clipboard.Stored
import CallWeave.Proofs.Codec.Clipboards
import CallWeave.Proofs.Codec.Numerals
import CallWeave.Proofs.Json.RoundTrip

/-!
# Stored clipboards read back

A triple of fields is a clipboard exactly if its kind takes as many instructions as it has and every field of every
instruction fits (`StoredClipboard.Valid`). A clipboard and its fields determine each other
(`Clipboard.ofStored_eq_ok_iff`), the fields are read back from their record, and the record from its text. So
whatever way a clipboard comes about, it can be stored, and its instructions are packed as they are.
-/

namespace CallWeave

variable {c : Clipboard} {fields : StoredClipboard} {params : PasteParams} {value : Uint256}

/-- How many instructions a kind takes. -/
def ClipboardKind.Takes : ClipboardKind → Nat → Prop
  | .static, count => count = 0
  | .single, count => count = 1
  | .multi, count => 1 ≤ count

instance (kind : ClipboardKind) (count : Nat) : Decidable (kind.Takes count) :=
  match kind with
  | .static => inferInstanceAs (Decidable (count = 0))
  | .single => inferInstanceAs (Decidable (count = 1))
  | .multi => inferInstanceAs (Decidable (1 ≤ count))

/-- The fields of a clipboard: the kind goes with the number of instructions, and each of them fits. -/
structure StoredClipboard.Valid (fields : StoredClipboard) : Prop where
  shape : fields.kind.Takes fields.instructions.length
  fits : ∀ i ∈ fields.instructions, i.Fits

namespace Clipboard

/-! ## Fields -/

/-- What a caller asks for becomes a clipboard of its layout. -/
theorem ofParams_eq_ok_iff : ofParams params value = .ok c ↔ c.layout = .ofParams params ∧ c.value = value := by
  constructor
  · intro made
    rw [ofParams, ofLayout] at made
    split at made
    case h_1 => cases made
    case h_2 =>
      obtain rfl := Except.ok.inj made
      exact ⟨rfl, rfl⟩
  · obtain ⟨layout, value', fits⟩ := c
    rintro ⟨rfl, rfl⟩
    exact ofParams_of_fits fits value'

/-- A clipboard is made of exactly the fields that it is stored under. -/
theorem ofStored_eq_ok_iff : ofStored fields = .ok c ↔ c.toStored = fields := by
  constructor
  · intro made
    obtain ⟨kind', instructions', value⟩ := fields
    have stored {params : PasteParams} (made : ofParams params value = .ok c) :
        c.toStored = ⟨(ClipboardLayout.ofParams params).kind, (ClipboardLayout.ofParams params).instructions,
          value⟩ := by
      obtain ⟨layout, rfl⟩ := ofParams_eq_ok_iff.mp made
      rw [toStored, kind, instructions, layout]
    rw [ofStored.eq_def] at made
    simp only at made
    split at made
    case h_1 => exact stored made
    case h_2 => exact stored made
    case h_3 => exact stored made
    case h_4 => cases made
  · rintro rfl
    obtain ⟨_ | i | ⟨first, rest⟩, value, fits⟩ := c <;> exact ofParams_eq_ok_iff.mpr ⟨rfl, rfl⟩

/-- A clipboard's fields are valid. -/
theorem valid_toStored (c : Clipboard) : c.toStored.Valid where
  shape := by
    obtain ⟨layout, _, _⟩ := c
    cases layout with
    | static => rfl
    | single => rfl
    | multi first rest => exact Nat.le_add_left 1 _
  fits := c.fits

/-- Valid fields are those of a clipboard. -/
theorem exists_toStored_eq (valid : fields.Valid) : ∃ c : Clipboard, c.toStored = fields := by
  obtain ⟨kind', instructions', value⟩ := fields
  obtain ⟨shape, fits⟩ := valid
  cases kind' with
  | static =>
    obtain rfl := List.length_eq_zero_iff.mp shape
    exact ⟨⟨.static, value, fits⟩, rfl⟩
  | single =>
    obtain ⟨i, rfl⟩ := List.length_eq_one_iff.mp shape
    exact ⟨⟨.single i, value, fits⟩, rfl⟩
  | multi =>
    obtain ⟨first, rest, rfl⟩ := List.exists_cons_of_length_pos shape
    exact ⟨⟨.multi first rest, value, fits⟩, rfl⟩

/-! ## Records -/

end Clipboard

namespace StoredClipboard

theorem uint128OfJson?_ofNat (n : Uint128) : uint128OfJson? (.ofNat n.toNat) = some n := by
  have fits : n.toNat < Nat.pow 2 128 := n.isLt
  rw [uint128OfJson?, Json.natBelow?_ofNat fits, Option.map_some, BitVec.ofNat_toNat, BitVec.setWidth_eq]

theorem instructionOfJson?_toJson (i : Instruction) : instructionOfJson? (instructionToJson i) = some i := by
  have placed : (instructionToJson i).fields? ["source_call_index", "copy_byte_offset", "paste_byte_offset"] =
      some [some (.ofNat i.source.toNat), some (.ofNat i.copy.toNat), some (.ofNat i.paste.toNat)] := by rfl
  rw [instructionOfJson?, placed]
  simp only [uint128OfJson?_ofNat]

theorem kindOfJson?_name (kind : ClipboardKind) : kindOfJson? (.string kind.name) = some kind := by
  cases kind <;> rfl

theorem uint256OfJson?_toJson (amount : Uint256) : uint256OfJson? (uint256ToJson amount) = some amount := by
  rw [uint256ToJson, uint256OfJson?, Numeral.uint256_encodeNat]
  rfl

theorem instructionsOfJson?_toJson (instructions : List Instruction) :
    instructionsOfJson? (.array (instructions.map instructionToJson)) = some instructions := by
  rw [instructionsOfJson?]
  induction instructions with
  | nil => rfl
  | cons i rest ih => rw [List.map_cons, List.mapM_cons, instructionOfJson?_toJson, ih]; rfl

/-- Fields are read back from their record. -/
theorem ofJson?_toJson (fields : StoredClipboard) : ofJson? fields.toJson = some fields := by
  have placed : fields.toJson.fields? ["kind", "instructions", "value"] =
      some [some (.string fields.kind.name), some (.array (fields.instructions.map instructionToJson)),
        some (uint256ToJson fields.value)] := by rfl
  rw [ofJson?, placed]
  simp only [kindOfJson?_name, instructionsOfJson?_toJson, Json.defaulted?, uint256OfJson?_toJson]

theorem legible_toJson (fields : StoredClipboard) : fields.toJson.Legible := by
  have instruction (i : Instruction) : (instructionToJson i).Legible := by
    refine .object ?_
    simp only [List.forall_mem_cons]
    exact ⟨.int _, .int _, .int _, List.forall_mem_nil _⟩
  refine .object ?_
  simp only [List.forall_mem_cons]
  exact ⟨.string _, .array (by simpa using fun i _ => instruction i), .string _, List.forall_mem_nil _⟩

/-- And from the text of their record. -/
theorem ofJson?_compact (fields : StoredClipboard) :
    (Json.parse? fields.toJson.compact).bind ofJson? = some fields := by
  rw [Json.parse?_compact fields.legible_toJson, Option.bind_some, ofJson?_toJson]

end StoredClipboard

namespace Clipboard

/-! ## Packing -/

/-- An instruction of a clipboard is packed without loss: the check behind which an instruction is packed passes, and
what is packed is unpacked again, whatever stands in front. -/
theorem pack_of_mem {i : Instruction} (isIn : i ∈ c.instructions) (first second : UInt8) :
    i.pack first second = .ok (i.packed first second) ∧
      Instruction.unpack (i.packed first second) = (first, second, i) := by
  have fits := c.fits i isIn
  refine ⟨?_, Instruction.unpack_packed fits first second⟩
  rw [Instruction.pack, (Instruction.overflow?_eq_none_iff i).mpr fits]

/-- A triple of fields is a clipboard exactly if it is valid, and then the fields of that clipboard. Every clipboard,
whether asked for, read from an encoding or made of fields, comes back from its fields and from the text that they
are written as; its kind goes with its instructions, every field of them fits, and they are packed without loss. -/
theorem stored_reads_back :
    (∀ fields, (∃ c, ofStored fields = .ok c) ↔ fields.Valid) ∧
    (∀ fields c, ofStored fields = .ok c → c.toStored = fields) ∧
    ∀ c : Clipboard,
      ofStored c.toStored = .ok c ∧
      ((Json.parse? c.toStored.toJson.compact).bind StoredClipboard.ofJson?).map ofStored = some (.ok c) ∧
      c.toStored.Valid ∧
      ∀ i ∈ c.instructions, ∀ first second, i.pack first second = .ok (i.packed first second) ∧
        Instruction.unpack (i.packed first second) = (first, second, i) := by
  refine ⟨fun fields => ⟨fun ⟨c, made⟩ => ?_, fun valid => ?_⟩, fun fields c => ofStored_eq_ok_iff.mp, fun c => ?_⟩
  · exact ofStored_eq_ok_iff.mp made ▸ c.valid_toStored
  · obtain ⟨c, stored⟩ := exists_toStored_eq valid
    exact ⟨c, ofStored_eq_ok_iff.mpr stored⟩
  · have back : ofStored c.toStored = .ok c := ofStored_eq_ok_iff.mpr rfl
    refine ⟨back, ?_, c.valid_toStored, fun i isIn => pack_of_mem isIn⟩
    rw [StoredClipboard.ofJson?_compact, Option.map_some, back]

/-- The fields of a clipboard with a field as wide as there is, and the same one wider. -/
def storedPastes (widest : Uint128) : StoredClipboard := ⟨.multi, [⟨0, 32, 36⟩, ⟨widest, 0, 1⟩], 7⟩

theorem storedPastes_read_back :
    (∃ c, ofStored (storedPastes 1208925819614629174706175) = .ok c ∧
      c.toStored = storedPastes 1208925819614629174706175 ∧
      ((Json.parse? c.toStored.toJson.compact).bind StoredClipboard.ofJson?).map ofStored = some (.ok c)) ∧
    ¬∃ c, ofStored (storedPastes 1208925819614629174706176) = .ok c := by
  obtain ⟨made, stored, back⟩ := stored_reads_back
  obtain ⟨c, ok⟩ := (made (storedPastes 1208925819614629174706175)).mpr ⟨by decide, by decide⟩
  refine ⟨⟨c, ok, stored _ c ok, (back c).2.1⟩, fun wide => ?_⟩
  have fits := ((made _).mp wide).fits
  revert fits
  decide

end Clipboard

end CallWeave
