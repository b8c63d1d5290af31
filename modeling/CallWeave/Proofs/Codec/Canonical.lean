import CallWeave.Proofs.Codec.Clipboards

/-!
# Every clipboard that is read

What is read, from whatever bytes, is read again from any longer input and from its own encoding. The encoding is what
stood in the bytes, without the padding of a header that stands alone and without what stands behind
(`Clipboard.decode_canonical`).
-/

namespace CallWeave.Clipboard

variable {c : Clipboard} {data : Bytes}

/-! ## What is encoded again -/

/-- The value is encoded as it stood. -/
theorem StandsIn.flatten_valueWords (stands : c.StandsIn data) :
    c.valueWords.flatten = (data.drop c.layout.valuePlace).take (32 * c.valueFlag.toNat) := by
  by_cases isZero : c.value = 0
  · simp [valueWords, valueFlag, isZero]
  · obtain ⟨word, -⟩ := Abi.wordAt_eq_ok_iff.mp (stands.value isZero)
    have single : c.valueFlag.toNat = 1 := by rw [valueFlag, if_neg isZero]; rfl
    rw [valueWords, if_neg isZero, List.flatten_singleton, ← word, single, Nat.mul_one]

/-- A single instruction is encoded as it stood. -/
theorem StandsIn.toBytes_single (stands : c.StandsIn data) (isSingle : c.kind = .single) :
    c.toBytes = data.take (32 * (1 + c.valueFlag.toNat)) := by
  have laidOut := stands.layout
  have behind := stands.flatten_valueWords
  rw [kind] at isSingle
  rw [toBytes_eq_flatten, words]
  cases layout : c.layout with
  | static => simp [layout, ClipboardLayout.kind] at isSingle
  | multi => simp [layout, ClipboardLayout.kind] at isSingle
  | single i =>
    rw [layout] at laidOut behind
    have isKind : c.kind = .single := by rw [kind, isSingle]
    rw [Nat.mul_add, List.take_add, laidOut, isKind, List.flatten_cons, behind]
    rfl

/-- A clipboard without instructions is encoded as it stood, behind a header with a clean padding. -/
theorem StandsIn.toBytes_static (stands : c.StandsIn data) (isStatic : c.kind = .static) :
    c.toBytes =
      data.take 2 ++ List.replicate 30 0 ++ (data.take (32 * (1 + c.valueFlag.toNat))).drop 32 := by
  have behind := stands.flatten_valueWords
  have header := stands.header
  rw [kind] at isStatic
  rw [toBytes_eq_flatten, words]
  cases layout : c.layout with
  | single => simp [layout, ClipboardLayout.kind] at isStatic
  | multi => simp [layout, ClipboardLayout.kind] at isStatic
  | static =>
    rw [layout] at behind
    have long : (data.take 32).length = 32 := by rw [List.length_take, Nat.min_eq_left stands.long]
    rw [Nat.mul_add, List.take_add, List.drop_left' long, List.flatten_cons, behind, header]
    rfl

/-- Whatever bytes are read, the clipboard is well formed and the one that they announce. It is read again from its own
encoding and from any longer input, and what is encoded is what stood there, up to the padding of a lone header. With
at most one instruction nothing else is asked of the bytes than a legal header and the words that it announces. -/
theorem decode_canonical (data : Bytes) :
    (∀ c, decode data = .ok c →
      (32 ≤ data.length ∧ data.take 2 = [c.kind.code, c.valueFlag] ∧ (data[1]? = some 1 ↔ c.value ≠ 0)) ∧
      ((∀ i ∈ c.instructions, i.Fits) ∧ (c.kind = .multi → c.instructions ≠ [])) ∧
      (decode c.toBytes = .ok c ∧ ∀ behind, decode (data ++ behind) = .ok c) ∧
      (c.kind = .single → c.toBytes = data.take (32 * (1 + c.valueFlag.toNat))) ∧
      (c.kind = .static → c.toBytes =
        data.take 2 ++ List.replicate 30 0 ++ (data.take (32 * (1 + c.valueFlag.toNat))).drop 32)) ∧
    ∀ kind, kind ≠ ClipboardKind.multi → ∀ isAnnounced, data.take 2 = [kind.code, flagByte isAnnounced] →
      32 * (1 + isAnnounced.toNat) ≤ data.length →
      (isAnnounced = true → fromBigEndian ((data.drop 32).take 32) ≠ 0) →
      ∃ c, decode data = .ok c ∧ c.kind = kind := by
  refine ⟨fun c ok => ?_, fun kind isPlain isAnnounced header long isThere => ?_⟩
  · have stands := standsIn_of_decode ok
    have again := decode_toBytes (length_instructions_of_decode ok) []
    rw [List.append_nil] at again
    refine ⟨⟨stands.long, stands.header, ?_⟩, ⟨c.fits, fun isMulti => ?_⟩,
      ⟨again, fun behind => decode_of_standsIn (stands.append behind)⟩, stands.toBytes_single, stands.toBytes_static⟩
    · have flag : data[1]? = some c.valueFlag := by
        rw [← List.getElem?_take_of_lt (show 1 < 2 by decide), stands.header]
        rfl
      rw [flag, Option.some.injEq, valueFlag_eq_one_iff]
    · rw [kind] at isMulti
      rw [instructions]
      cases layout : c.layout <;> simp_all [ClipboardLayout.kind, ClipboardLayout.instructions]
  · have opens : decodeHeader data = .ok (kind, isAnnounced) := decodeHeader_eq_ok_iff.mpr ⟨by omega, header⟩
    have value (announced : isAnnounced = true) := by
      rw [announced, Bool.toNat_true] at long
      exact exists_value long (isThere announced)
    cases kind with
    | multi => exact absurd rfl isPlain
    | static =>
      obtain ⟨c, ok, layout⟩ := exists_decode .static (by simp [ClipboardLayout.instructions]) opens trivial value
      exact ⟨c, ok, by rw [kind, layout]; rfl⟩
    | single =>
      have fits := Instruction.fits_unpack (data.take 32)
      obtain ⟨c, ok, layout⟩ := exists_decode (.single _) (List.forall_mem_singleton.mpr fits) opens
        (packed_unpack_take opens) value
      exact ⟨c, ok, by rw [kind, layout]; rfl⟩

/-- Here the place of the instructions leads to the value, which is their number as well, and a padding is not clean. -/
def entangled : Bytes :=
  [2, 1] ++ List.replicate 30 170 ++ bigEndian 32 64 ++ bigEndian 32 1 ++ Instruction.packed ⟨7, 32, 36⟩ 0 0 ++ [255]

/-- Entangled parts are read, and encoded one behind the other; a value behind an unclean header is read too. -/
theorem entangled_canonical :
    (∃ c, decode entangled = .ok c ∧ c.instructions = [⟨7, 32, 36⟩] ∧ c.value = 1 ∧ c.toBytes.length = 160 ∧
      decode c.toBytes = .ok c ∧ decode (entangled ++ entangled) = .ok c) ∧
    ∃ c, decode ([0, 1] ++ List.replicate 62 170) = .ok c ∧ c.kind = .static ∧
      c.toBytes = [0, 1] ++ List.replicate 30 0 ++ List.replicate 32 170 := by
  have read : decode entangled = .ok ⟨.multi ⟨7, 32, 36⟩ [], 1, by decide⟩ := by decide +kernel
  have opens : ([0, 1] ++ List.replicate 62 170 : Bytes).take 2 = [ClipboardKind.static.code, flagByte true] := rfl
  obtain ⟨-, -, ⟨again, behind⟩, -, -⟩ := (decode_canonical entangled).1 _ read
  refine ⟨⟨_, read, rfl, rfl, by decide +kernel, again, behind entangled⟩, ?_⟩
  obtain ⟨reads, accepts⟩ := decode_canonical ([0, 1] ++ List.replicate 62 170)
  obtain ⟨c, ok, isStatic⟩ := accepts .static (by decide) true opens (by decide) (by decide)
  obtain ⟨⟨-, -, isFlag⟩, -, -, -, same⟩ := reads c ok
  have flag : c.valueFlag = 1 := c.valueFlag_eq_one_iff.mpr (isFlag.mp rfl)
  refine ⟨c, ok, isStatic, ?_⟩
  rw [same isStatic, flag]
  rfl

end CallWeave.Clipboard
