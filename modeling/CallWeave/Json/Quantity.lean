import CallWeave.Bytes.Numeral
import CallWeave.Json.Basic

/-!
# Amounts, bytes and addresses in JSON

An amount is written as its hexadecimal text and read from a text in any of the bases or from a number of
64 bits. Bytes and addresses are written as hexadecimal text and read from such a text or from a list of
numbers below 256.
-/

namespace CallWeave

/-- An amount in JSON: its hexadecimal text. -/
def uint256ToJson (number : Uint256) : Json := .string (Hex.encodeNat number.toNat)

/-- Reads an amount: a text in any of the bases, or a number of 64 bits. -/
def uint256OfJson? : Json → Option Uint256
  | .int i => if 0 ≤ i ∧ i < Nat.pow 2 64 then some (BitVec.ofNat 256 i.toNat) else none
  | .string text => (Numeral.uint256 text).toOption
  | _ => none

/-- Bytes in JSON: their hexadecimal text. -/
def bytesToJson (bytes : Bytes) : Json := .string (Hex.encode bytes)

/-- Reads one byte. -/
def octetOfJson? (json : Json) : Option UInt8 :=
  (json.natBelow? 256).map UInt8.ofNat

/-- Reads bytes: their text or the list of them. -/
def bytesOfJson? : Json → Option Bytes
  | .string text => (Hex.decode text).toOption
  | .array items => items.mapM octetOfJson?
  | _ => none

/-- An address in JSON: its hexadecimal text. -/
def Address.toJson (address : Address) : Json := .string address.toHex

/-- Reads an address: exactly twenty bytes. -/
def Address.ofJson? : Json → Option Address
  | .string text => (Address.parse text).toOption
  | .array items => (items.mapM octetOfJson?).bind Address.ofBytes?
  | _ => none

end CallWeave
