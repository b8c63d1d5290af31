import CallWeave.Bytes.BigEndian
import Mathlib.Algebra.Ring.Nat
import Mathlib.Data.List.Induction

/-!
# Reading words back

A number that is written into a width reads back as its remainder modulo 256 to the power of the
width (`fromBigEndian_bigEndian`), so it reads back as it is when it fits. Bytes that are read are
written again as they were (`bigEndian_fromBigEndian`), so bytes of one width that spell one number
are the same. Every number of the contract encoding goes through these lemmas: the 32 bytes of a
word, the 20 bytes of an address in it and the 10 bytes of a field of a paste instruction.
-/

namespace CallWeave

/-- The byte that comes last has the least weight. -/
theorem fromBigEndian_concat (bytes : Bytes) (byte : UInt8) :
    fromBigEndian (bytes ++ [byte]) = fromBigEndian bytes * 256 + byte.toNat := by
  simp [fromBigEndian]

/-- A number reads back modulo what its width holds. -/
theorem fromBigEndian_bigEndian (width number : Nat) :
    fromBigEndian (bigEndian width number) = number % 256 ^ width := by
  induction width generalizing number with
  | zero => simp [bigEndian, fromBigEndian, Nat.mod_one]
  | succ width ih =>
    have low : (UInt8.ofNat number).toNat = number % 256 := UInt8.toNat_ofNat'
    rw [bigEndian, fromBigEndian_concat, ih, low, Nat.pow_succ, Nat.mul_comm (256 ^ width), Nat.mod_mul]
    omega

/-- A number that fits its width reads back as it is. -/
theorem fromBigEndian_bigEndian_of_lt {width number : Nat} (fits : number < 256 ^ width) :
    fromBigEndian (bigEndian width number) = number := by
  rw [fromBigEndian_bigEndian, Nat.mod_eq_of_lt fits]

/-- The number that bytes spell is written with the same bytes. -/
theorem bigEndian_fromBigEndian (bytes : Bytes) : bigEndian bytes.length (fromBigEndian bytes) = bytes := by
  induction bytes using List.reverseRecOn with
  | nil => rfl
  | append_singleton front byte ih =>
    have isByte : byte.toNat < 256 := byte.toNat_lt
    have high : (fromBigEndian front * 256 + byte.toNat) / 256 = fromBigEndian front := by omega
    have low : UInt8.ofNat (fromBigEndian front * 256 + byte.toNat) = byte := by
      rw [← UInt8.toNat_inj, UInt8.toNat_ofNat']
      omega
    rw [List.length_append, List.length_singleton, bigEndian, fromBigEndian_concat, high, ih, low]

/-- Bytes of one width are told apart by the numbers that they spell. -/
theorem eq_of_fromBigEndian_eq {one other : Bytes} (length : one.length = other.length)
    (number : fromBigEndian one = fromBigEndian other) : one = other := by
  rw [← bigEndian_fromBigEndian one, length, number, bigEndian_fromBigEndian]

/-- A word is 32 bytes long. -/
@[simp] theorem length_wordOf (number : Uint256) : (wordOf number).length = 32 :=
  length_bigEndian 32 number.toNat

/-- A 256-bit number fits its word. -/
@[simp] theorem fromBigEndian_wordOf (number : Uint256) : fromBigEndian (wordOf number) = number.toNat :=
  fromBigEndian_bigEndian_of_lt (Nat.lt_of_lt_of_eq number.isLt (by decide))

end CallWeave
