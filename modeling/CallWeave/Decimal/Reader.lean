import CallWeave.Decimal.Magnitude

/-!
# Reading a decimal

`Decimal.nearest` is the float nearest to `digits * 10 ^ exponent`. Exponents so large that the answer is
zero or infinite whatever the digits are settled first, so that no giant power is ever computed.

`Decimal.parse?` reads a text: an optional sign, digits with at most one point and at least one digit, an
optional exponent, or one of the words `inf`, `infinity` and `nan` in any case.
-/

namespace CallWeave.Decimal

/-- The float nearest to `digits * 10 ^ exponent`, ties to even. -/
def nearest (digits : Nat) (exponent : Int) : Float :=
  let size : Int := (Nat.log2 digits : Int) * 30103 / 100000 + exponent
  if digits = 0 then 0.0
  else if 400 < size then 1.0 / 0.0
  else if size < -400 then 0.0
  else if 0 ≤ exponent then Float.ofScientific digits false exponent.toNat
  else Float.ofScientific digits true (-exponent).toNat

/-- Whether a character is one of the ten digits. -/
def isDigit (c : Char) : Bool := '0' ≤ c && c ≤ '9'

/-- The number that some digits spell. -/
def digitsNumber (digits : List Char) : Nat :=
  digits.foldl (fun number c => number * 10 + (c.toNat - 48)) 0

/-- Reads an exponent behind its mark: an optional sign and at least one digit, and then nothing. -/
def exponent? (text : List Char) : Option Int :=
  let read (digits : List Char) : Option Nat :=
    if digits.isEmpty || !digits.all isDigit then none else some (digitsNumber digits)
  match text with
  | '-' :: digits => (read digits).map fun n => -(n : Int)
  | '+' :: digits => (read digits).map fun n => (n : Int)
  | digits => (read digits).map fun n => (n : Int)

/-- Reads a number without a sign. -/
def unsigned? (text : List Char) : Option Float :=
  let whole := text.takeWhile isDigit
  let afterWhole := text.dropWhile isDigit
  let (fraction, afterFraction) := match afterWhole with
    | '.' :: rest => (rest.takeWhile isDigit, rest.dropWhile isDigit)
    | rest => ([], rest)
  if whole.isEmpty && fraction.isEmpty then none
  else
    let digits := digitsNumber (whole ++ fraction)
    let value (exponent : Int) := nearest digits (exponent - fraction.length)
    match afterFraction with
    | [] => some (value 0)
    | mark :: rest =>
      if mark = 'e' ∨ mark = 'E' then (exponent? rest).map value else none

/-- Reads a float. -/
def parse? (text : String) : Option Float :=
  let (negative, body) := match text.toList with
    | '-' :: rest => (true, rest)
    | '+' :: rest => (false, rest)
    | rest => (false, rest)
  let word := String.ofList (body.map Char.toLower)
  let value :=
    if word = "inf" ∨ word = "infinity" then some (1.0 / 0.0)
    else if word = "nan" then some (0.0 / 0.0)
    else unsigned? body
  value.map fun x => if negative then -x else x

end CallWeave.Decimal
