import CallWeave.Bytes.BigEndian
import CallWeave.Decimal.Layout

/-!
# Slippage

A tolerance in percent is turned into a whole number of millionths, the *basis*, before it touches an
amount. `slip` is the least amount that is accepted, rounded down; `pad` is the largest amount that is paid,
rounded up. Neither multiplies the whole amount by the factor: it scales the millions of the amount and the
rest apart, in words of 256 bits, so only a result that really is too large is refused.
-/

namespace CallWeave

/-- What keeps an amount from being adjusted. -/
inductive SlippageError where
  | negative (percent : Float)
  | notFinite (percent : Float)
  | overflow (amount : Uint256) (percent : Float)

/-- The text of an error. -/
def SlippageError.message : SlippageError → String
  | .negative percent => "slippage must be non-negative, got " ++ Decimal.plain.text percent
  | .notFinite percent => "slippage must be a finite number, got " ++ Decimal.plain.text percent
  | .overflow amount percent =>
    toString amount.toNat ++ " adjusted by " ++ Decimal.plain.text percent ++ "% does not fit in 256 bits"

namespace Slippage

/-- What the whole amount counts as. -/
def precision : Nat := 1000000

/-- The largest basis and the largest factor. -/
def maxBasis : Nat := Nat.pow 2 64 - 1

/-- A finite percentage in millionths: the float product with ten thousand, rounded to a whole number with a
half going up, at most 64 bits. -/
def millionths (percent : Float) : Nat :=
  match Decimal.meaning (percent * 10000.0) with
  | .finite _ magnitude => min magnitude.roundAway maxBasis
  | .infinite _ => maxBasis
  | .notANumber => 0

/-- The basis of a tolerance. -/
def basis (percent : Float) : Except SlippageError Nat :=
  match Decimal.meaning percent with
  | .notANumber | .infinite _ => .error (.notFinite percent)
  | .finite _ _ => if percent < 0.0 then .error (.negative percent) else .ok (millionths percent)

/-- The precision as a word. -/
def unit : Uint256 := BitVec.ofNat 256 precision

/-- The product of two words, if it fits a word. -/
def checkedMul (a b : Uint256) : Option Uint256 := if BitVec.umulOverflow a b then none else some (a * b)

/-- The sum of two words, if it fits a word. -/
def checkedAdd (a b : Uint256) : Option Uint256 := if BitVec.uaddOverflow a b then none else some (a + b)

/-- The quotient of two words, rounded up. -/
def divCeil (a b : Uint256) : Uint256 := if a % b = 0 then a / b else a / b + 1

/-- Scales the millions of an amount, if that fits a word, and the rest, which stays in millionths. -/
def scale (amount factor : Uint256) : Option (Uint256 × Uint256) :=
  (checkedMul (amount / unit) factor).map fun whole => (whole, amount % unit * factor)

/-- What is accepted of a million under a basis. -/
def slipFactor (basis : Nat) : Uint256 := BitVec.ofNat 256 (precision - basis)

/-- What is paid for a million under a basis, at most 64 bits. -/
def padFactor (basis : Nat) : Uint256 := BitVec.ofNat 256 (min (precision + basis) maxBasis)

/-- The least amount accepted under a basis. -/
def slipBy (basis : Nat) (amount : Uint256) : Option Uint256 :=
  (scale amount (slipFactor basis)).map fun (whole, rest) => whole + rest / unit

/-- The largest amount paid under a basis. -/
def padBy (basis : Nat) (amount : Uint256) : Option Uint256 :=
  (scale amount (padFactor basis)).bind fun (whole, rest) => checkedAdd whole (divCeil rest unit)

/-- Adjusts an amount by a tolerance. -/
def adjust (scaled : (basis : Nat) → Uint256 → Option Uint256) (amount : Uint256) (percent : Float) :
    Except SlippageError Uint256 :=
  match basis percent with
  | .error e => .error e
  | .ok b =>
    match scaled b amount with
    | some result => .ok result
    | none => .error (.overflow amount percent)

/-- The least amount accepted. -/
def slip (amount : Uint256) (percent : Float) : Except SlippageError Uint256 :=
  adjust slipBy amount percent

/-- The largest amount paid. -/
def pad (amount : Uint256) (percent : Float) : Except SlippageError Uint256 :=
  adjust padBy amount percent

end Slippage

/-- A pair in the order of a direction. -/
def directed {α : Type} (a b : α) (forward : Bool) : α × α :=
  if forward then (a, b) else (b, a)

end CallWeave
