import CallWeave.Bytes.Hex

/-!
# The checksum of an address

An address shown to people carries a checksum in the case of its letters: a letter is upper case where the
digit at its place in the Keccak-256 hash of the lower-case digits is eight or more. The hash works on 25
lanes of 64 bits, five rows of five; a block of 17 lanes is mixed in before each permutation of 24 rounds.
-/

namespace CallWeave.Keccak

/-- The 25 lanes, the lane of column `x` and row `y` at place `x + 5 * y`. -/
abbrev Lanes := Array UInt64

/-- The lane at a column and a row, both counted around. -/
def lane (a : Lanes) (x y : Nat) : UInt64 := a.getD (x % 5 + 5 * (y % 5)) 0

/-- The lanes given by column and row. -/
def ofLanes (f : (x y : Nat) → UInt64) : Lanes := Array.ofFn fun i : Fin 25 => f (i.val % 5) (i.val / 5)

/-- A lane turned left by less than 64 bits. -/
def turn (word : UInt64) (bits : Nat) : UInt64 :=
  if bits = 0 then word else (word <<< UInt64.ofNat bits) ||| (word >>> UInt64.ofNat (64 - bits))

/-- The constants that the rounds add. -/
def roundConstants : List UInt64 :=
  [0x0000000000000001, 0x0000000000008082, 0x800000000000808a, 0x8000000080008000, 0x000000000000808b,
    0x0000000080000001, 0x8000000080008081, 0x8000000000008009, 0x000000000000008a, 0x0000000000000088,
    0x0000000080008009, 0x000000008000000a, 0x000000008000808b, 0x800000000000008b, 0x8000000000008089,
    0x8000000000008003, 0x8000000000008002, 0x8000000000000080, 0x000000000000800a, 0x800000008000000a,
    0x8000000080008081, 0x8000000000008080, 0x0000000080000001, 0x8000000080008008]

/-- How far each lane is turned. -/
def turns : List Nat :=
  [0, 1, 62, 28, 27, 36, 44, 6, 55, 20, 3, 10, 43, 25, 39, 41, 45, 15, 21, 8, 18, 2, 61, 56, 14]

/-- The sum of a column. -/
def column (a : Lanes) (x : Nat) : UInt64 :=
  lane a x 0 ^^^ lane a x 1 ^^^ lane a x 2 ^^^ lane a x 3 ^^^ lane a x 4

/-- Adds to each lane the columns to its left and right. -/
def mixColumns (a : Lanes) : Lanes :=
  ofLanes fun x y => lane a x y ^^^ column a (x + 4) ^^^ turn (column a (x + 1)) 1

/-- Turns every lane and moves it to another place. -/
def scatter (a : Lanes) : Lanes :=
  ofLanes fun x y =>
    let fromX := (x + 3 * y) % 5
    turn (lane a fromX x) (turns.getD (fromX + 5 * x) 0)

/-- Combines each lane with the next two of its row. -/
def mixRows (a : Lanes) : Lanes :=
  ofLanes fun x y => lane a x y ^^^ (~~~ lane a (x + 1) y &&& lane a (x + 2) y)

/-- One round. -/
def round (a : Lanes) (constant : UInt64) : Lanes :=
  (mixRows (scatter (mixColumns a))).modify 0 (· ^^^ constant)

/-- All rounds. -/
def permute (a : Lanes) : Lanes := roundConstants.foldl round a

/-- The lane of eight bytes, least significant first. -/
def laneOf (bytes : Bytes) : UInt64 := UInt64.ofNat (fromBigEndian bytes.reverse)

/-- Mixes the lanes of a block in. -/
def absorb (a : Lanes) (block : Bytes) : Lanes :=
  permute (ofLanes fun x y =>
    let place := x + 5 * y
    lane a x y ^^^ (if place < 17 then laneOf ((block.drop (8 * place)).take 8) else 0))

/-- A message filled up to whole blocks of 136 bytes. -/
def padded (message : Bytes) : Bytes :=
  let missing := 136 - message.length % 136
  if missing = 1 then message ++ [0x81]
  else message ++ 0x01 :: (List.replicate (missing - 2) 0 ++ [0x80])

/-- The lanes after all blocks. -/
def absorbAll : (blocks : Nat) → Bytes → Lanes → Lanes
  | 0, _, a => a
  | blocks + 1, bytes, a => absorbAll blocks (bytes.drop 136) (absorb a (bytes.take 136))

/-- The 32 bytes of the hash. -/
def hash (message : Bytes) : Bytes :=
  let bytes := padded message
  let a := absorbAll (bytes.length / 136) bytes (ofLanes fun _ _ => 0)
  ((List.range 4).flatMap fun place => (bigEndian 8 (lane a place 0).toNat).reverse)

end CallWeave.Keccak

namespace CallWeave.Address

/-- The text of an address with its checksum. -/
def toChecksum (address : Address) : String :=
  let digits := Hex.digits address.bytes
  let hash := Hex.digits (Keccak.hash (digits.map fun c => UInt8.ofNat c.toNat))
  String.ofList ('0' :: 'x' :: (digits.zip hash).map fun (c, h) =>
    if 8 ≤ (Hex.digitValue? h).getD 0 then c.toUpper else c)

end CallWeave.Address
