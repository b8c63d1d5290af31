import CallWeave.Decimal.Reader

/-!
# Reading a decimal from its leading digits

A quick way to read a decimal: as many leading digits as spell a number below 2^64 are taken exactly, and
the float of that number is multiplied or divided by one power of ten. Digits behind those only count for
their place. The result may differ from the nearest float in its last bit. `scaled?` has no answer where
the result would be infinite.
-/

namespace CallWeave.Decimal

/-- Takes digits while the number they spell stays below 2^64: that number, and the digits left. -/
def takeLeading : List Char → (number : Nat) → Nat × List Char
  | [], number => (number, [])
  | c :: rest, number =>
    let next := number * 10 + (c.toNat - 48)
    if next < Nat.pow 2 64 then takeLeading rest next else (number, c :: rest)

/-- Multiplies or divides by a power of ten, a division below 10^-308 being done in steps. -/
def scale? : (fuel : Nat) → (x : Float) → (exponent : Int) → Option Float
  | 0, x, _ => some x
  | fuel + 1, x, exponent =>
    if exponent.natAbs ≤ 308 then
      let power := nearest 1 exponent.natAbs
      if 0 ≤ exponent then
        let y := x * power
        if y.isFinite then some y else none
      else some (x / power)
    else if x == 0.0 then some x
    else if 0 ≤ exponent then none
    else scale? fuel (x / nearest 1 308) (exponent + 308)

/-- The float of `whole.fraction * 10 ^ exponent`. -/
def scaled? (whole fraction : List Char) (exponent : Int) : Option Float :=
  let (leading, wholeRest) := takeLeading whole 0
  let (number, fractionRest) := takeLeading fraction leading
  let taken : Int := (fraction.length : Int) - fractionRest.length
  scale? 4 (nearest number 0) ((wholeRest.length : Int) - taken + exponent)

end CallWeave.Decimal
