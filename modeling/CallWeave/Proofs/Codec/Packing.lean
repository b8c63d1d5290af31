import CallWeave.Proofs.Codec.Clipboards

/-!
# Packing and unpacking

An instruction that fits and a prefix of two bytes make one word, and every word is made by exactly one such pair:
`Instruction.pack` and `Instruction.unpack` undo each other in both directions (`Instruction.pack_inverts_unpack`). One
direction is that fields of ten bytes are read where they were written (`Instruction.unpack_packed`), the other that
the parts of a word, put together again, are that word (`Instruction.packed_unpack`). Packing is refused for a field
that takes more than 80 bits and for nothing else.
-/

namespace CallWeave.Instruction

variable {i : Instruction} {first second : UInt8} {word : Bytes}

/-- What is packed is an instruction that fits, behind its prefix. -/
theorem pack_eq_ok_iff : i.pack first second = .ok word ↔ i.Fits ∧ word = i.packed first second := by
  rw [pack, ← overflow?_eq_none_iff]
  cases i.overflow? <;> simp [eq_comm]

/-- Whatever is refused has a field that is too wide, which is reported. -/
theorem pack_eq_error_iff {e : ClipboardError} : i.pack first second = .error e ↔ i.overflow? = some e := by
  rw [pack]
  cases i.overflow? <;> simp

/-- An instruction does not fit if one of its fields is too wide. -/
theorem not_fits_iff :
    ¬ i.Fits ↔ maxField < i.source.toNat ∨ maxField < i.copy.toNat ∨ maxField < i.paste.toNat := by
  rw [Fits, not_and_or, not_and_or, Nat.not_le, Nat.not_le, Nat.not_le]

/-- A word is packed of what it unpacks to, and of nothing else. -/
theorem pack_eq_ok_iff_unpack (isWord : word.length = 32) :
    i.pack first second = .ok word ↔ unpack word = (first, second, i) := by
  rw [pack_eq_ok_iff]
  constructor
  · rintro ⟨fits, rfl⟩
    exact unpack_packed fits first second
  · intro unpacked
    have fits := fits_unpack word
    have same := packed_unpack isWord
    rw [unpacked] at fits same
    exact ⟨fits, same.symm⟩

/-- Packing and unpacking undo each other. An instruction whose fields fit is packed behind every prefix into a word
that unpacks to this prefix and this instruction. Every word unpacks to an instruction that passes the check, and
packed again behind the prefix it gives the word; so it comes from exactly one prefix and instruction. Packing fails
exactly if some field takes more than 80 bits, and then such a field is named. -/
theorem pack_inverts_unpack :
    (∀ i : Instruction, i.source.toNat ≤ 2 ^ 80 - 1 → i.copy.toNat ≤ 2 ^ 80 - 1 → i.paste.toNat ≤ 2 ^ 80 - 1 →
      ∀ first second, ∃ word, i.pack first second = .ok word ∧ word.length = 32 ∧
        unpack word = (first, second, i)) ∧
    (∀ word : Bytes, word.length = 32 → ∃ first second i, unpack word = (first, second, i) ∧
      i.overflow? = none ∧ i.pack first second = .ok word) ∧
    (∀ word : Bytes, word.length = 32 →
      ∃! packed : UInt8 × UInt8 × Instruction, packed.2.2.pack packed.1 packed.2.1 = .ok word) ∧
    ∀ (i : Instruction) (first second : UInt8),
      ((∃ e, i.pack first second = .error e) ↔
        2 ^ 80 - 1 < i.source.toNat ∨ 2 ^ 80 - 1 < i.copy.toNat ∨ 2 ^ 80 - 1 < i.paste.toNat) ∧
      ∀ e, i.pack first second = .error e →
        ∃ field ∈ i.fields, 2 ^ 80 - 1 < field.2.toNat ∧ e = .offsetOverflow field.1 field.2 := by
  refine ⟨fun i source copy paste first second => ?_, fun word isWord => ?_, fun word isWord => ?_,
    fun i first second => ⟨?_, fun e refused => ?_⟩⟩
  · have fits : i.Fits := ⟨source, copy, paste⟩
    exact ⟨_, pack_eq_ok_iff.mpr ⟨fits, rfl⟩, length_packed i first second, unpack_packed fits first second⟩
  · exact ⟨_, _, _, rfl, (overflow?_eq_none_iff _).mpr (fits_unpack word), (pack_eq_ok_iff_unpack isWord).mpr rfl⟩
  · refine ⟨unpack word, (pack_eq_ok_iff_unpack isWord).mpr rfl, fun packed made => ?_⟩
    exact ((pack_eq_ok_iff_unpack isWord).mp made).symm
  · simp only [pack_eq_error_iff]
    rw [← Option.isSome_iff_exists, ← Option.ne_none_iff_isSome, ne_eq, overflow?_eq_none_iff]
    exact not_fits_iff
  · rw [pack_eq_error_iff] at refused
    have isWide : ¬ i.Fits := fun fits => by simp [(overflow?_eq_none_iff i).mpr fits] at refused
    obtain ⟨field, isField, tooWide, named⟩ := exists_overflow?_of_not_fits isWide
    exact ⟨field, isField, tooWide, Option.some.inj (refused.symm.trans named)⟩

/-- Fields as wide as there are on both sides of a small one, and a word of nothing but ones. -/
theorem widestFields_pack_unpack :
    (∃ word, pack ⟨1208925819614629174706175, 1, 1208925819614629174706175⟩ 2 255 = .ok word ∧ word.length = 32 ∧
      unpack word = (2, 255, ⟨1208925819614629174706175, 1, 1208925819614629174706175⟩)) ∧
    (∃! packed : UInt8 × UInt8 × Instruction,
      packed.2.2.pack packed.1 packed.2.1 = .ok (List.replicate 32 255)) ∧
    ∃ e, pack ⟨0, 1208925819614629174706176, 0⟩ 2 255 = .error e := by
  obtain ⟨packs, -, unique, refuses⟩ := pack_inverts_unpack
  exact ⟨packs _ (by decide) (by decide) (by decide) 2 255, unique _ (by decide),
    (refuses _ 2 255).1.mpr (.inr (.inl (by decide)))⟩

end CallWeave.Instruction
