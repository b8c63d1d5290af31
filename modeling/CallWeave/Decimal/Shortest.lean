import CallWeave.Decimal.Magnitude

/-!
# The fewest digits that read back

A float stands for an interval of reals: all that are nearer to it than to its neighbours, with the two
ends when its mantissa is even. `shortest` looks for the least number of digits at which some decimal lies
in that interval, and of two such decimals takes the nearer one. When both are equally near, the layout
that asked decides.

The search is exact: a decimal is compared with an end of the interval by cross-multiplying.
-/

namespace CallWeave.Decimal

/-- Which of two equally near decimals is taken. -/
inductive Tie where
  | up
  | even
deriving DecidableEq

/-- The number `digits * 10 ^ exponent`, with no zero at the end of `digits` unless it is zero. -/
structure Digits where
  digits : Nat
  exponent : Int
deriving DecidableEq

/-- Compares `a * 10 ^ i` with `b * 2 ^ j`. -/
def compareScaled (a : Nat) (i : Int) (b : Nat) (j : Int) : Ordering :=
  compare (a * Nat.pow 10 i.toNat * Nat.pow 2 (-j).toNat) (b * Nat.pow 2 j.toNat * Nat.pow 10 (-i).toNat)

/-- Whether a decimal lies among the reals that a float stands for. -/
def Magnitude.contains (x : Magnitude) (d : Digits) : Bool :=
  let low := if x.narrowBelow then 4 * x.mantissa - 1 else 4 * x.mantissa - 2
  let high := 4 * x.mantissa + 2
  let closed := x.mantissa % 2 == 0
  let atLow := compareScaled d.digits d.exponent low (x.exponent - 2)
  let atHigh := compareScaled d.digits d.exponent high (x.exponent - 2)
  (atLow == .gt || (closed && atLow == .eq)) && (atHigh == .lt || (closed && atHigh == .eq))

/-- The least power of ten above a value, searched upward from `guess`. -/
def scaleFrom (x : Magnitude) : (fuel : Nat) → (guess : Int) → Int
  | 0, guess => guess
  | fuel + 1, guess =>
    if compareScaled 1 guess x.mantissa x.exponent == .gt then guess
    else scaleFrom x fuel (guess + 1)

/-- The place of the decimal point: `x` is below `10 ^ scale` and not below a tenth of it. -/
def Magnitude.scale (x : Magnitude) : Int :=
  let bits : Int := (x.mantissa.log2 : Int) + x.exponent
  scaleFrom x 8 ((bits * 30103).fdiv 100000 - 1)

/-- The neighbour of a value on the grid `10 ^ step` that lies in its interval, if any does. -/
def nearestOnGrid? (tie : Tie) (x : Magnitude) (step : Int) : Option Digits :=
  let number := x.mantissa * Nat.pow 2 x.exponent.toNat * Nat.pow 10 (-step).toNat
  let unit := Nat.pow 2 (-x.exponent).toNat * Nat.pow 10 step.toNat
  let below := number / unit
  let rest := number % unit
  let lower : Digits := ⟨below, step⟩
  let upper : Digits := ⟨below + 1, step⟩
  match x.contains lower, x.contains upper with
  | false, false => none
  | true, false => some lower
  | false, true => some upper
  | true, true =>
    match compare (2 * rest) unit with
    | .lt => some lower
    | .gt => some upper
    | .eq => some (match tie with
      | .up => upper
      | .even => if below % 2 = 0 then lower else upper)

/-- Moves zeros at the end of the digits into the exponent. -/
def stripZeros : (fuel : Nat) → Digits → Digits
  | 0, d => d
  | fuel + 1, d =>
    if d.digits ≠ 0 ∧ d.digits % 10 = 0 then stripZeros fuel ⟨d.digits / 10, d.exponent + 1⟩ else d

/-- Tries ever finer grids; should all miss, the value itself has finitely many digits. -/
def searchGrids (tie : Tie) (x : Magnitude) : (fuel : Nat) → (step : Int) → Digits
  | 0, _ =>
    if 0 ≤ x.exponent then ⟨x.mantissa * Nat.pow 2 x.exponent.toNat, 0⟩
    else ⟨x.mantissa * Nat.pow 5 (-x.exponent).toNat, x.exponent⟩
  | fuel + 1, step =>
    match nearestOnGrid? tie x step with
    | some d => d
    | none => searchGrids tie x fuel (step - 1)

/-- The fewest digits that read back to a value. -/
def Magnitude.shortest (tie : Tie) (x : Magnitude) : Digits :=
  if x.mantissa = 0 then ⟨0, 0⟩
  else stripZeros 20 (searchGrids tie x 17 (x.scale - 1))

end CallWeave.Decimal
