/-!
# Bytes and big-endian numbers

Calldata is a list of bytes, and every number in it is written most significant byte first in a
fixed width. `bigEndian` writes a number into a width, `fromBigEndian` reads the number that a list
of bytes spells. Writing drops what does not fit the width, so the two undo each other exactly below
256 to the power of the width.
-/

namespace CallWeave

/-- A string of bytes: calldata, return data, an encoded clipboard. -/
abbrev Bytes := List UInt8

/-- An amount of currency or a call value. -/
abbrev Uint256 := BitVec 256

/-- A field of a paste instruction before its width is checked. -/
abbrev Uint128 := BitVec 128

/-- The low `width` bytes of a number, most significant first. -/
def bigEndian : (width : Nat) → (number : Nat) → Bytes
  | 0, _ => []
  | width + 1, number => bigEndian width (number / 256) ++ [UInt8.ofNat number]

/-- The number that a list of bytes spells, most significant byte first. -/
def fromBigEndian (bytes : Bytes) : Nat :=
  bytes.foldl (fun number byte => number * 256 + byte.toNat) 0

@[simp] theorem length_bigEndian (width number : Nat) : (bigEndian width number).length = width := by
  induction width generalizing number with
  | zero => rfl
  | succ width ih => simp [bigEndian, ih]

/-- The 32-byte word of a 256-bit number. -/
def wordOf (number : Uint256) : Bytes :=
  bigEndian 32 number.toNat

/-- A contract or account address. -/
structure Address where
  number : BitVec 160
deriving DecidableEq, Inhabited

namespace Address

/-- The address that no account holds. -/
def zero : Address := ⟨0⟩

/-- The twenty bytes of an address. -/
def bytes (address : Address) : Bytes :=
  bigEndian 20 address.number.toNat

/-- The address that a number stands for, taken modulo 2^160. -/
def ofNat (number : Nat) : Address := ⟨BitVec.ofNat 160 number⟩

/-- Reads twenty bytes as an address. -/
def ofBytes? (bytes : Bytes) : Option Address :=
  if bytes.length = 20 then some (ofNat (fromBigEndian bytes)) else none

end Address

end CallWeave
