import CallWeave.Bytes.BigEndian

/-!
# The contract encoding of a parameter list

A parameter list is laid out as a block of heads followed by a block of tails. A fixed part stands in the
heads as it is; a moved part leaves there one word, the place of its tail counted from the start of the
list. Lists of moved parts nest: an array is its length followed by a parameter list of its elements, and
so is a tuple without the length.
-/

namespace CallWeave.Abi

/-- A part of a parameter list. -/
inductive Part where
  /-- Stands in the heads. -/
  | fixed (head : Bytes)
  /-- Stands in the tails, with its place in the heads. -/
  | moved (tail : Bytes)

/-- The bytes of a part in the heads. -/
def Part.headSize : Part → Nat
  | .fixed head => head.length
  | .moved _ => 32

/-- The bytes of all heads. -/
def headsSize : List Part → Nat
  | [] => 0
  | part :: rest => part.headSize + headsSize rest

/-- The word of a small number: a length or a place. -/
def numberWord (n : Nat) : Bytes := bigEndian 32 n

/-- The heads, the next tail standing at `place`. -/
def heads : (place : Nat) → List Part → Bytes
  | _, [] => []
  | place, .fixed head :: rest => head ++ heads place rest
  | place, .moved tail :: rest => numberWord place ++ heads (place + tail.length) rest

/-- The tails, one behind the other. -/
def tails : List Part → Bytes
  | [] => []
  | .fixed _ :: rest => tails rest
  | .moved tail :: rest => tail ++ tails rest

/-- The encoding of a parameter list. -/
def params (parts : List Part) : Bytes :=
  heads (headsSize parts) parts ++ tails parts

/-- Zeros up to a multiple of 32 bytes. -/
def padding (length : Nat) : Bytes :=
  List.replicate ((32 - length % 32) % 32) 0

/-- Bytes of any length: their number, then they, then zeros up to a whole word. -/
def bytesPart (bytes : Bytes) : Part :=
  .moved (numberWord bytes.length ++ bytes ++ padding bytes.length)

/-- An array: the number of its elements, then their parameter list. -/
def arrayPart (elements : List Part) : Part :=
  .moved (numberWord elements.length ++ params elements)

/-- A tuple with a moved member. -/
def tuplePart (members : List Part) : Part :=
  .moved (params members)

/-- A 256-bit number. -/
def uintPart (number : Uint256) : Part := .fixed (wordOf number)

/-- An address, in the low bytes of a word. -/
def addressPart (address : Address) : Part := .fixed (bigEndian 32 address.number.toNat)

/-- Up to 32 bytes, in the high bytes of a word. -/
def leftPart (bytes : Bytes) : Part := .fixed (bytes ++ List.replicate (32 - bytes.length) 0)

end CallWeave.Abi
