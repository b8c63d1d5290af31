import CallWeave.Json.Quantity
import CallWeave.Proofs.Codec.Numerals
import CallWeave.Proofs.Codec.Words

/-!
# Bytes and addresses read back from their text

The hexadecimal text of bytes pairs up, has no character that is no digit, and spells those bytes
(`Hex.decode_encode`). An address is twenty of them (`Address.parse_toHex`), so it is read back from the document that
it is written as. `Hex.octets` and `Hex.quantity` say digit by digit what the texts of bytes and of amounts are.
-/

namespace CallWeave

namespace Hex

theorem digitValue?_digit {value : Nat} (small : value < 16) : digitValue? (digit value) = some value :=
  (Numeral.counts_hexDigit value small).1

/-- A digit is encoded in one byte. -/
theorem utf8Size_digit : ∀ value < 16, (digit value).utf8Size = 1 := by decide

/-- Both halves of a byte are digits. -/
theorem halves_lt (byte : UInt8) : byte.toNat / 16 < 16 ∧ byte.toNat % 16 < 16 := by
  have := byte.toNat_lt
  omega

theorem pairs_digits (bytes : Bytes) : pairs (digits bytes) = bytes := by
  induction bytes with
  | nil => rfl
  | cons byte rest ih =>
    obtain ⟨high, low⟩ := halves_lt byte
    rw [digits, pairs, digitValue?_digit high, digitValue?_digit low]
    simp only [ih, Nat.div_add_mod, UInt8.ofNat_toNat]

theorem firstBadDigit_digits (bytes : Bytes) (position : Nat) : firstBadDigit (digits bytes) position = none := by
  induction bytes generalizing position with
  | nil => rfl
  | cons byte rest ih =>
    obtain ⟨high, low⟩ := halves_lt byte
    simp only [digits, firstBadDigit, digitValue?_digit high, digitValue?_digit low, Option.isSome_some, if_true, ih]

theorem encodedSize_digits (bytes : Bytes) : encodedSize (digits bytes) = 2 * bytes.length := by
  suffices behind : ∀ size, (digits bytes).foldl (fun size c => size + c.utf8Size) size = size + 2 * bytes.length by
    simpa [encodedSize] using behind 0
  induction bytes with
  | nil => simp [digits]
  | cons byte rest ih =>
    intro size
    obtain ⟨high, low⟩ := halves_lt byte
    rw [digits, List.foldl_cons, List.foldl_cons, ih, utf8Size_digit _ high, utf8Size_digit _ low, List.length_cons]
    omega

theorem decodeDigits_digits (bytes : Bytes) : decodeDigits (digits bytes) = .ok bytes := by
  rw [decodeDigits, if_neg (by rw [encodedSize_digits]; omega), firstBadDigit_digits, pairs_digits]

theorem stripPrefix_encode (bytes : Bytes) : stripPrefix (encode bytes).toList = digits bytes := by
  rw [encode, String.toList_ofList, stripPrefix]

/-- Bytes are read back from their text. -/
theorem decode_encode (bytes : Bytes) : decode (encode bytes) = .ok bytes := by
  rw [decode, stripPrefix_encode, decodeDigits_digits]

theorem decodeSized_encode (bytes : Bytes) : decodeSized bytes.length (encode bytes) = .ok bytes := by
  rw [decodeSized, stripPrefix_encode, encodedSize_digits, if_neg (by omega), if_neg (by omega), decodeDigits_digits]

/-! ## Digit by digit -/

/-- Two digits for each byte behind the prefix. -/
def octets (bytes : Bytes) : String :=
  String.ofList ('0' :: 'x' :: bytes.flatMap fun byte => [(byte.toNat / 16).digitChar, (byte.toNat % 16).digitChar])

/-- The digits of a number behind the prefix, without leading zeros. -/
def quantity (number : Nat) : String := String.ofList ('0' :: 'x' :: Nat.toDigits 16 number)

theorem digit_eq_digitChar : ∀ value < 16, digit value = value.digitChar := by decide

theorem digits_eq_flatMap (bytes : Bytes) :
    digits bytes = bytes.flatMap fun byte => [(byte.toNat / 16).digitChar, (byte.toNat % 16).digitChar] := by
  induction bytes with
  | nil => rfl
  | cons byte rest ih =>
    obtain ⟨high, low⟩ := halves_lt byte
    rw [digits, ih, List.flatMap_cons, digit_eq_digitChar _ high, digit_eq_digitChar _ low]
    rfl

theorem encode_eq_octets (bytes : Bytes) : encode bytes = octets bytes := by
  rw [encode, octets, digits_eq_flatMap]

/-- Enough places hold all digits of a number. -/
theorem reverse_numberDigits {fuel number : Nat} (enough : number < 16 ^ (fuel + 1)) :
    (numberDigits (fuel + 1) number).reverse = Nat.toDigits 16 number := by
  induction fuel generalizing number with
  | zero =>
    have small : number < 16 := by simpa using enough
    rw [numberDigits, if_pos small, Nat.toDigits_of_lt_base small, digit_eq_digitChar _ small]
    rfl
  | succ fuel ih =>
    rw [numberDigits]
    split
    case isTrue small =>
      rw [Nat.toDigits_of_lt_base small, digit_eq_digitChar _ small]
      rfl
    case isFalse large =>
      have less : number / 16 < 16 ^ (fuel + 1) := by
        rw [pow_succ] at enough
        omega
      rw [List.reverse_cons, ih less, digit_eq_digitChar _ (Nat.mod_lt number (by decide)),
        ← Nat.toDigits_of_base_le (by decide) (by omega)]

theorem encodeNat_eq_quantity (number : Nat) : encodeNat number = quantity number := by
  rw [encodeNat, quantity, reverse_numberDigits]
  calc number < 2 ^ (number.log2 + 1) := Nat.lt_log2_self
    _ ≤ 16 ^ (number.log2 + 1) := Nat.pow_le_pow_left (by decide) _

end Hex

/-- An address is read back from its text. -/
theorem Address.parse_toHex (address : Address) : parse address.toHex = .ok address := by
  have read : Hex.decodeSized 20 (Hex.encode address.bytes) = .ok address.bytes := by
    have length : address.bytes.length = 20 := length_bigEndian 20 _
    simpa [length] using Hex.decodeSized_encode address.bytes
  have number : fromBigEndian address.bytes = address.number.toNat :=
    fromBigEndian_bigEndian_of_lt (by exact address.number.isLt)
  rw [parse, toHex, read, Except.map, number, ofNat, BitVec.ofNat_toNat, BitVec.setWidth_eq]

theorem Address.ofJson?_toJson (address : Address) : ofJson? address.toJson = some address := by
  rw [toJson, ofJson?, parse_toHex]
  rfl

end CallWeave
