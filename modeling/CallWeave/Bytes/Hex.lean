import CallWeave.Bytes.BigEndian
import CallWeave.Text.Quoted

/-!
# Hexadecimal text

Bytes are written as `0x` and two lower-case digits a byte. Reading takes either case of digit and
one optional prefix in either case. Three things can be wrong with a text, and they are asked in this
order: an odd number of digits, a size other than the one wanted, a character that is no digit.
-/

namespace CallWeave.Hex

/-- The digit of a number below sixteen. -/
def digit (value : Nat) : Char :=
  if value < 10 then Char.ofNat (48 + value) else Char.ofNat (87 + value)

/-- The value of a hexadecimal digit of either case. -/
def digitValue? (c : Char) : Option Nat :=
  if '0' ≤ c ∧ c ≤ '9' then some (c.toNat - 48)
  else if 'a' ≤ c ∧ c ≤ 'f' then some (c.toNat - 87)
  else if 'A' ≤ c ∧ c ≤ 'F' then some (c.toNat - 55)
  else none

/-- The two digits of each byte. -/
def digits : Bytes → List Char
  | [] => []
  | byte :: rest => digit (byte.toNat / 16) :: digit (byte.toNat % 16) :: digits rest

/-- The text of some bytes, with the prefix. -/
def encode (bytes : Bytes) : String :=
  String.ofList ('0' :: 'x' :: digits bytes)

/-- The digits of a number, least first, for as many places as `fuel` allows. -/
def numberDigits : (fuel number : Nat) → List Char
  | 0, _ => []
  | fuel + 1, number =>
    if number < 16 then [digit number]
    else digit (number % 16) :: numberDigits fuel (number / 16)

/-- A number without leading zeros behind the prefix; zero is `0x0`. -/
def encodeNat (number : Nat) : String :=
  String.ofList ('0' :: 'x' :: (numberDigits (number.log2 + 1) number).reverse)

/-- What keeps a text from being read as bytes. -/
inductive Error where
  /-- The digits do not pair up. -/
  | oddLength
  /-- The text has an even number of digits, but not as many as wanted. -/
  | wrongSize
  /-- The first character that is no digit: the first byte of its encoding and its place. -/
  | badDigit (octet : UInt8) (position : Nat)
deriving DecidableEq

/-- The text of an error; a byte is shown as the character of that number. -/
def Error.message : Error → String
  | .oddLength => "odd number of digits"
  | .wrongSize => "invalid string length"
  | .badDigit octet position =>
    "invalid character " ++ Text.quotedChar (Char.ofNat octet.toNat) ++ " at position " ++ toString position

/-- The characters behind an optional prefix. -/
def stripPrefix : List Char → List Char
  | '0' :: 'x' :: rest => rest
  | '0' :: 'X' :: rest => rest
  | text => text

/-- How many bytes the characters take when encoded. -/
def encodedSize (text : List Char) : Nat :=
  text.foldl (fun size c => size + c.utf8Size) 0

/-- The first byte of a character's encoding. -/
def firstOctet (c : Char) : UInt8 :=
  (String.utf8EncodeChar c).headD 0

/-- The first character that is no digit, with its place. -/
def firstBadDigit : List Char → Nat → Option Error
  | [], _ => none
  | c :: rest, position =>
    if (digitValue? c).isSome then firstBadDigit rest (position + 1)
    else some (.badDigit (firstOctet c) position)

/-- The bytes of digits in pairs; what is no pair of digits is left out. -/
def pairs : List Char → Bytes
  | high :: low :: rest =>
    match digitValue? high, digitValue? low with
    | some h, some l => UInt8.ofNat (16 * h + l) :: pairs rest
    | _, _ => pairs rest
  | _ => []

/-- Reads the digits of any number of bytes. -/
def decodeDigits (text : List Char) : Except Error Bytes :=
  if encodedSize text % 2 = 1 then .error .oddLength
  else match firstBadDigit text 0 with
    | some error => .error error
    | none => .ok (pairs text)

/-- Reads any number of bytes. -/
def decode (text : String) : Except Error Bytes :=
  decodeDigits (stripPrefix text.toList)

/-- Reads exactly `size` bytes. -/
def decodeSized (size : Nat) (text : String) : Except Error Bytes :=
  let digits := stripPrefix text.toList
  if encodedSize digits % 2 = 1 then .error .oddLength
  else if encodedSize digits / 2 ≠ size then .error .wrongSize
  else decodeDigits digits

end CallWeave.Hex

namespace CallWeave.Address

/-- The lower-case text of an address. -/
def toHex (address : Address) : String :=
  Hex.encode address.bytes

/-- Reads the text of exactly twenty bytes; the case of the digits is not checked. -/
def parse (text : String) : Except Hex.Error Address :=
  (Hex.decodeSized 20 text).map fun bytes => .ofNat (fromBigEndian bytes)

end CallWeave.Address
