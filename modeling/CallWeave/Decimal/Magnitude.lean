/-!
# The exact value behind a float

The bits of a finite float stand for `mantissa * 2 ^ exponent`. What is written, rounded or compared
afterwards is computed from these two numbers, so nothing depends on how a processor rounds.

`Magnitude.roundAway` is the nearest whole number, a half going up in size.
-/

namespace CallWeave.Decimal

/-- A finite value without its sign: `mantissa * 2 ^ exponent`. -/
structure Magnitude where
  mantissa : Nat
  exponent : Int
  /-- The gap to the float below is half the gap to the float above. -/
  narrowBelow : Bool
deriving DecidableEq

/-- What the bits of a float stand for. -/
inductive Meaning where
  | notANumber
  | infinite (negative : Bool)
  | finite (negative : Bool) (magnitude : Magnitude)
deriving DecidableEq

/-- Splits the bits of a float into sign, exponent and fraction. -/
def meaning (x : Float) : Meaning :=
  let bits := x.toBits.toNat
  let negative := bits / Nat.pow 2 63 == 1
  let biased : Nat := bits / Nat.pow 2 52 % Nat.pow 2 11
  let fraction : Nat := bits % Nat.pow 2 52
  if biased = 2047 then
    if fraction = 0 then .infinite negative else .notANumber
  else if biased = 0 then .finite negative ⟨fraction, -1074, false⟩
  else .finite negative ⟨Nat.pow 2 52 + fraction, Int.ofNat biased - 1075, fraction == 0 && decide (1 < biased)⟩

/-- The nearest whole number; a half goes to the larger one. -/
def Magnitude.roundAway (x : Magnitude) : Nat :=
  if 0 ≤ x.exponent then x.mantissa * Nat.pow 2 x.exponent.toNat
  else
    let unit := Nat.pow 2 (-x.exponent).toNat
    (2 * x.mantissa + unit) / (2 * unit)

end CallWeave.Decimal
