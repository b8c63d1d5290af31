import CallWeave.Abi.Encoding
import CallWeave.Bytes.Hex

/-!
# Reading the contract encoding

The reader follows places wherever they lead: a tail may stand anywhere behind the start of its parameter
list, unaligned, over other parts or right at the end. Padding is not looked at and neither is what follows
the last part. Two things are refused: a read beyond the end, and a place or length of more than 64 bits.
-/

namespace CallWeave.Abi

/-- Why an encoding cannot be read. -/
inductive Error where
  /-- Something is read beyond the end. -/
  | overrun
  /-- A place or a length takes more than 64 bits; this is its word. -/
  | wideOffset (word : Bytes)
deriving DecidableEq

/-- The text of an error. -/
def Error.message : Error → String
  | .overrun => "ABI decoding failed: buffer overrun while deserializing"
  | .wideOffset word =>
    "type check failed for \"offset (usize)\" with data: " ++ String.ofList (Hex.digits word)

/-- The word at a place of a zone. -/
def wordAt (zone : Bytes) (place : Nat) : Except Error Bytes :=
  let word := (zone.drop place).take 32
  if word.length = 32 then .ok word else .error .overrun

/-- The place or length written at a place of a zone. -/
def numberAt (zone : Bytes) (place : Nat) : Except Error Nat :=
  match wordAt zone place with
  | .error e => .error e
  | .ok word =>
    if fromBigEndian word < Nat.pow 2 64 then .ok (fromBigEndian word) else .error (.wideOffset word)

/-- The zone that the head at a place leads to. -/
def zoneAt (zone : Bytes) (place : Nat) : Except Error Bytes :=
  match numberAt zone place with
  | .error e => .error e
  | .ok offset => if offset ≤ zone.length then .ok (zone.drop offset) else .error .overrun

/-- The bytes that the head at a place leads to. -/
def bytesAt (zone : Bytes) (place : Nat) : Except Error Bytes :=
  match zoneAt zone place with
  | .error e => .error e
  | .ok inner =>
    match numberAt inner 0 with
    | .error e => .error e
    | .ok length =>
      let bytes := (inner.drop 32).take length
      if bytes.length = length then .ok bytes else .error .overrun

/-- Reads elements whose heads stand one word apart, the first of them at `place`. -/
def elementsAt {α : Type} (read : Bytes → Nat → Except Error α) (zone : Bytes) :
    (count place : Nat) → Except Error (List α)
  | 0, _ => .ok []
  | count + 1, place =>
    match read zone place with
    | .error e => .error e
    | .ok element =>
      match elementsAt read zone count (place + 32) with
      | .error e => .error e
      | .ok rest => .ok (element :: rest)

/-- The array that the head at a place leads to. There have to be as many words behind its length as it has
elements, whatever the elements are. -/
def arrayAt {α : Type} (read : Bytes → Nat → Except Error α) (zone : Bytes) (place : Nat) :
    Except Error (List α) :=
  match zoneAt zone place with
  | .error e => .error e
  | .ok inner =>
    match numberAt inner 0 with
    | .error e => .error e
    | .ok count =>
      let body := inner.drop 32
      if body.length / 32 < count then .error .overrun else elementsAt read body count 0

/-- Reads a parameter list that is one array of bytes. -/
def bytesArray (data : Bytes) : Except Error (List Bytes) :=
  arrayAt bytesAt data 0

end CallWeave.Abi
