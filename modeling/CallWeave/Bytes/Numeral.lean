import CallWeave.Bytes.Hex

/-!
# Numbers written as text

Two readers. `Numeral.uint256` reads an amount: a prefix chooses the base (`0x`, `0o`, `0b`, in either
case, and ten without one), underscores are skipped, no digits at all mean zero. Digits of a base that
is a power of two are read from the right and those of base ten from the left, and the first trouble met
in that direction is the one reported. `Numeral.natural?` reads a plain number of a given width: one
optional plus sign, at least one digit, no underscores and no blanks.
-/

namespace CallWeave.Numeral

/-- What keeps a text from being an amount. -/
inductive Error where
  /-- A byte that is no digit of the base. -/
  | badDigit (octet : UInt8)
  /-- The number takes more than 256 bits. -/
  | tooLarge
deriving DecidableEq

/-- The text of an error; a byte is shown as the character of that number. -/
def Error.message : Error → String
  | .badDigit octet => "invalid digit: " ++ String.singleton (Char.ofNat octet.toNat)
  | .tooLarge => "the value is too large to fit the target type"

/-- The bases an amount can be written in. -/
inductive Base where
  | two
  | eight
  | ten
  | sixteen
deriving DecidableEq

/-- The base as a number. -/
def Base.radix : Base → Nat
  | .two => 2
  | .eight => 8
  | .ten => 10
  | .sixteen => 16

/-- Splits the base's prefix off. -/
def splitBase : List Char → Base × List Char
  | '0' :: 'x' :: rest => (.sixteen, rest)
  | '0' :: 'X' :: rest => (.sixteen, rest)
  | '0' :: 'o' :: rest => (.eight, rest)
  | '0' :: 'O' :: rest => (.eight, rest)
  | '0' :: 'b' :: rest => (.two, rest)
  | '0' :: 'B' :: rest => (.two, rest)
  | text => (.ten, text)

/-- The value of a digit of the base, in either case. -/
def digitValue? (base : Base) (c : Char) : Option Nat :=
  match Hex.digitValue? c with
  | some value => if value < base.radix then some value else none
  | none => none

/-- Adds up digits from the left: `number` is what the digits so far spell. -/
def fromLeft (base : Base) : List Char → (number : Nat) → Except Error Nat
  | [], number => .ok number
  | c :: rest, number =>
    if c = '_' then fromLeft base rest number
    else match digitValue? base c with
      | none => .error (.badDigit (Hex.firstOctet c))
      | some value =>
        let next := number * base.radix + value
        if next < Nat.pow 2 256 then fromLeft base rest next else .error .tooLarge

/-- Adds up digits from the right: the next one weighs `weight`. -/
def fromRight (base : Base) : List Char → (weight number : Nat) → Except Error Nat
  | [], _, number => .ok number
  | c :: rest, weight, number =>
    if c = '_' then fromRight base rest weight number
    else match digitValue? base c with
      | none => .error (.badDigit ((String.utf8EncodeChar c).getLastD 0))
      | some value =>
        let next := number + value * weight
        if next < Nat.pow 2 256 then fromRight base rest (weight * base.radix) next else .error .tooLarge

/-- The number that the digits of an amount spell. -/
def digitsValue (base : Base) (digits : List Char) : Except Error Nat :=
  match base with
  | .ten => fromLeft .ten digits 0
  | _ => fromRight base digits.reverse 1 0

/-- Reads an amount. -/
def uint256 (text : String) : Except Error Uint256 :=
  let (base, digits) := splitBase text.toList
  (digitsValue base digits).map (BitVec.ofNat 256)

/-- Why a text is no plain number. -/
inductive PlainError where
  | empty
  | badDigit
  | tooLarge
deriving DecidableEq

/-- The text of an error of a plain number. -/
def PlainError.message : PlainError → String
  | .empty => "cannot parse integer from empty string"
  | .badDigit => "invalid digit found in string"
  | .tooLarge => "number too large to fit in target type"

/-- Adds up the digits of a plain number from the left; whichever comes first, a character that is no
digit or the digit that makes the number too large, decides the error. -/
def plainDigits (radix bound : Nat) : List Char → (number : Nat) → Except PlainError Nat
  | [], number => .ok number
  | c :: rest, number =>
    match Hex.digitValue? c with
    | some value =>
      if value < radix then
        let next := number * radix + value
        if next < bound then plainDigits radix bound rest next else .error .tooLarge
      else .error .badDigit
    | none => .error .badDigit

/-- Reads a plain number below `bound`. -/
def plain (radix bound : Nat) (text : List Char) : Except PlainError Nat :=
  match text with
  | [] => .error .empty
  | ['+'] => .error .badDigit
  | ['-'] => .error .badDigit
  | '+' :: digits => plainDigits radix bound digits 0
  | digits => plainDigits radix bound digits 0

/-- Reads a plain decimal number of 128 bits. -/
def uint128 (text : String) : Except PlainError Uint128 :=
  (plain 10 (Nat.pow 2 128) text.toList).map (BitVec.ofNat 128)

end CallWeave.Numeral
