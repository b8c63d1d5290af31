import CallWeave.Amount.Slippage
import Mathlib.Algebra.Order.Floor.Div
import Mathlib.Tactic.Ring

/-!
# Slippage rounds as the undivided formula

`slip` and `pad` scale the millions of an amount and the rest apart. The parts add up to the whole product
divided by a million, rounded down (`div_add_div`) or up (`div_add_ceilDiv`), so in 256-bit words both answer
as if they computed with unbounded numbers: a basis is below `2 ^ 64` and the rest below a million, which
leaves no operation that wraps (`Slippage.unwrapped`). What `pad` refuses is what does not fit a word, and the
two limits lie evenly around the amount (`Slippage.slip_pad_exact`).
-/

namespace CallWeave.Slippage

/-! ## Divided and undivided formulas -/

section Division

/-- A product is that of the whole units and that of the rest. -/
theorem mul_eq_units_add_rest (units amount factor : Nat) :
    amount * factor = units * (amount / units * factor) + amount % units * factor := by
  calc amount * factor
      = (units * (amount / units) + amount % units) * factor := by rw [Nat.div_add_mod]
    _ = units * (amount / units * factor) + amount % units * factor := by ring

variable {units : Nat} (amount factor : Nat)

/-- Rounding the rest down rounds the product down. -/
theorem div_add_div (isPos : 0 < units) :
    amount / units * factor + amount % units * factor / units = amount * factor / units := by
  rw [mul_eq_units_add_rest units amount factor, Nat.mul_add_div isPos]

/-- Rounding the rest up rounds the product up. -/
theorem div_add_ceilDiv (isPos : 0 < units) :
    amount / units * factor + (amount % units * factor) ⌈/⌉ units = (amount * factor) ⌈/⌉ units := by
  have shifted : amount * factor + units - 1 =
      units * (amount / units * factor) + (amount % units * factor + units - 1) := by
    have split := mul_eq_units_add_rest units amount factor
    omega
  rw [Nat.ceilDiv_eq_add_pred_div, Nat.ceilDiv_eq_add_pred_div, shifted, Nat.mul_add_div isPos]

/-- Of two numbers that make up whole units, what is rounded off one is rounded onto the other. -/
theorem div_add_ceilDiv_of_add_eq {low high whole : Nat} (isPos : 0 < units) (sum : low + high = units * whole) :
    low / units + high ⌈/⌉ units = whole := by
  have parted : units * (low / units) + low % units = low := Nat.div_add_mod low units
  have small : low % units < units := Nat.mod_lt low isPos
  have isLess : low / units ≤ whole := Nat.div_le_of_le_mul (by omega)
  -- the other one lacks the remainder of the first to whole units
  have lacks : high + units - 1 = units * (whole - low / units) + (units - 1 - low % units) := by
    have := Nat.mul_le_mul_left units isLess
    rw [Nat.mul_sub]
    omega
  have rest : (units - 1 - low % units) / units = 0 := Nat.div_eq_of_lt (by omega)
  rw [Nat.ceilDiv_eq_add_pred_div, lacks, Nat.mul_add_div isPos, rest]
  omega

/-- Rounding up adds one to the quotient unless there is no remainder. -/
theorem ceilDiv_eq_div_add (isPos : 0 < units) :
    amount ⌈/⌉ units = amount / units + if amount % units = 0 then 0 else 1 := by
  have small : amount % units < units := Nat.mod_lt amount isPos
  have shifted : amount + units - 1 = units * (amount / units) + (amount % units + units - 1) := by
    have parted := Nat.div_add_mod amount units
    omega
  rw [Nat.ceilDiv_eq_add_pred_div, shifted, Nat.mul_add_div isPos]
  congr 1
  split
  case isTrue none => exact Nat.div_eq_of_lt (by omega)
  case isFalse some => exact Nat.div_eq_of_lt_le (by omega) (by omega)

end Division

/-! ## Words -/

section Words

variable {a b : Uint256}

@[simp] theorem toNat_unit : unit.toNat = precision := rfl

/-- A word that stands for a number modulo `2 ^ 256` and is withheld when the number is larger, is the number. -/
theorem withheld_eq_some_iff {number : Nat} {result word : Uint256} (wraps : result.toNat = number % 2 ^ 256) :
    (if 2 ^ 256 ≤ number then none else some result) = some word ↔ word.toNat = number := by
  have isWord : word.toNat < 2 ^ 256 := word.isLt
  split
  case isTrue tooLarge =>
    simp only [reduceCtorEq, false_iff]
    omega
  case isFalse fits =>
    rw [Nat.mod_eq_of_lt (Nat.lt_of_not_le fits)] at wraps
    rw [Option.some.injEq, BitVec.toNat_eq, wraps, eq_comm]

/-- A product that fits a word is exact. -/
theorem checkedMul_eq_some_iff {product : Uint256} :
    checkedMul a b = some product ↔ product.toNat = a.toNat * b.toNat := by
  simpa [checkedMul, BitVec.umulOverflow] using withheld_eq_some_iff (BitVec.toNat_mul a b)

/-- So is a sum. -/
theorem checkedAdd_eq_some_iff {sum : Uint256} : checkedAdd a b = some sum ↔ sum.toNat = a.toNat + b.toNat := by
  simpa [checkedAdd, BitVec.uaddOverflow] using withheld_eq_some_iff (BitVec.toNat_add a b)

/-- The quotient that is rounded up stays below the dividend, so the unit that is added to it does not wrap. -/
theorem uaddOverflow_div_one (isPos : 1 < b.toNat) : BitVec.uaddOverflow (a / b) 1 = false := by
  have isLess : a.toNat / b.toNat ≤ a.toNat / 2 := Nat.div_le_div_left isPos (by decide)
  have isWord : a.toNat < 2 ^ 256 := a.isLt
  have one : (1 : Uint256).toNat = 1 := rfl
  rw [BitVec.uaddOverflow, decide_eq_false_iff_not, BitVec.toNat_udiv, one]
  omega

/-- A quotient rounded up is exact. -/
theorem toNat_divCeil (isPos : 1 < b.toNat) : (divCeil a b).toNat = a.toNat ⌈/⌉ b.toNat := by
  have isZero : a % b = 0 ↔ a.toNat % b.toNat = 0 := by
    rw [BitVec.toNat_eq, BitVec.toNat_umod]
    exact Iff.rfl
  rw [ceilDiv_eq_div_add _ (by omega), divCeil]
  split
  case isTrue none => rw [if_pos (isZero.mp none), BitVec.toNat_udiv, Nat.add_zero]
  case isFalse some =>
    rw [if_neg fun none => some (isZero.mpr none), BitVec.toNat_add_of_not_uaddOverflow, BitVec.toNat_udiv]
    · rfl
    · rw [uaddOverflow_div_one isPos]
      decide

end Words

/-! ## Scaling -/

section Scaling

variable {amount factor whole rest : Uint256}

/-- No operation on words that is not checked wraps when a rest of the amount is scaled by a factor. -/
theorem umulOverflow_rest (amount : Uint256) (isBasis : factor.toNat < 2 ^ 64) :
    BitVec.umulOverflow (amount % unit) factor = false := by
  have isRest : amount.toNat % precision ≤ precision := Nat.le_of_lt (Nat.mod_lt _ (by decide))
  have isSmall : amount.toNat % precision * factor.toNat ≤ precision * 2 ^ 64 :=
    Nat.mul_le_mul isRest (Nat.le_of_lt isBasis)
  have isWord : precision * 2 ^ 64 < 2 ^ 256 := by decide
  rw [BitVec.umulOverflow, decide_eq_false_iff_not, BitVec.toNat_umod, toNat_unit]
  omega

/-- Scaling gives both parts exactly. -/
theorem scale_eq_some_iff (isBasis : factor.toNat < 2 ^ 64) :
    scale amount factor = some (whole, rest) ↔
      whole.toNat = amount.toNat / precision * factor.toNat ∧
        rest.toNat = amount.toNat % precision * factor.toNat := by
  have exact : (amount % unit * factor).toNat = amount.toNat % precision * factor.toNat := by
    rw [BitVec.toNat_mul_of_not_umulOverflow (by rw [umulOverflow_rest amount isBasis]; decide), BitVec.toNat_umod,
      toNat_unit]
  rw [scale, Option.map_eq_some_iff]
  simp only [checkedMul_eq_some_iff, BitVec.toNat_udiv, toNat_unit, Prod.mk.injEq]
  constructor
  · rintro ⟨_, isWhole, rfl, rfl⟩
    exact ⟨isWhole, exact⟩
  · rintro ⟨isWhole, isRest⟩
    exact ⟨whole, isWhole, rfl, BitVec.eq_of_toNat_eq (exact.trans isRest.symm)⟩

/-- An amount is scaled when the whole part fits a word. -/
theorem exists_scale (fits : amount.toNat / precision * factor.toNat < 2 ^ 256) :
    ∃ whole rest, scale amount factor = some (whole, rest) := by
  have exact : (BitVec.ofNat 256 (amount.toNat / precision * factor.toNat)).toNat =
      amount.toNat / precision * factor.toNat := by
    rw [BitVec.toNat_ofNat, Nat.mod_eq_of_lt fits]
  have whole : checkedMul (amount / unit) factor = some (BitVec.ofNat 256 (amount.toNat / precision * factor.toNat)) :=
    checkedMul_eq_some_iff.mpr (by rw [exact, BitVec.toNat_udiv, toNat_unit])
  exact ⟨_, _, by rw [scale, whole, Option.map_some]⟩

end Scaling

/-! ## Adjusting -/

section Adjusting

variable {amount adjusted : Uint256} {b : Nat}

theorem toNat_slipFactor (b : Nat) : (slipFactor b).toNat = precision - b := by
  have isSmall : precision < 2 ^ 256 := by decide
  rw [slipFactor, BitVec.toNat_ofNat, Nat.mod_eq_of_lt (by omega)]

theorem toNat_padFactor (b : Nat) : (padFactor b).toNat = min (precision + b) maxBasis := by
  have isSmall : maxBasis < 2 ^ 256 := by decide
  rw [padFactor, BitVec.toNat_ofNat, Nat.mod_eq_of_lt (by omega)]

theorem slipFactor_lt (b : Nat) : (slipFactor b).toNat < 2 ^ 64 := by
  have isSmall : precision < 2 ^ 64 := by decide
  rw [toNat_slipFactor]
  omega

theorem padFactor_lt (b : Nat) : (padFactor b).toNat < 2 ^ 64 := by
  have isSmall : maxBasis < 2 ^ 64 := by decide
  rw [toNat_padFactor]
  omega

/-- What is left after slippage is at most the amount. -/
theorem slipped_le (amount b : Nat) : amount * (precision - b) / precision ≤ amount := by
  refine Nat.div_le_of_le_mul ?_
  rw [Nat.mul_comm precision]
  exact Nat.mul_le_mul_left amount (Nat.sub_le _ _)

/-- No operation on words that is left unchecked wraps when an amount is adjusted under a basis. -/
structure Unwrapped (amount : Uint256) (b : Nat) : Prop where
  slipRest : BitVec.umulOverflow (amount % unit) (slipFactor b) = false
  slipSum : ∀ whole rest, scale amount (slipFactor b) = some (whole, rest) →
    BitVec.uaddOverflow whole (rest / unit) = false
  padRest : BitVec.umulOverflow (amount % unit) (padFactor b) = false
  /-- Rounding up adds one to a quotient. -/
  padCeil : ∀ whole rest, scale amount (padFactor b) = some (whole, rest) →
    BitVec.uaddOverflow (rest / unit) 1 = false

theorem unwrapped (amount : Uint256) (b : Nat) : Unwrapped amount b where
  slipRest := umulOverflow_rest amount (slipFactor_lt b)
  padRest := umulOverflow_rest amount (padFactor_lt b)
  padCeil _ _ _ := uaddOverflow_div_one (by decide)
  slipSum whole rest scaled := by
    obtain ⟨isWhole, isRest⟩ := (scale_eq_some_iff (slipFactor_lt b)).mp scaled
    have sum := div_add_div amount.toNat (slipFactor b).toNat (show 0 < precision by decide)
    have isLess := slipped_le amount.toNat b
    have isWord : amount.toNat < 2 ^ 256 := amount.isLt
    rw [toNat_slipFactor] at isWhole isRest sum
    rw [BitVec.uaddOverflow, decide_eq_false_iff_not, BitVec.toNat_udiv, toNat_unit, isWhole, isRest, sum]
    omega

/-- What slippage leaves is the product divided by a million, rounded down. -/
theorem slipBy_eq_some_iff :
    slipBy b amount = some adjusted ↔ adjusted.toNat = amount.toNat * (precision - b) / precision := by
  have sum := div_add_div amount.toNat (slipFactor b).toNat (show 0 < precision by decide)
  have isLess := slipped_le amount.toNat b
  have isWord : amount.toNat < 2 ^ 256 := amount.isLt
  rw [toNat_slipFactor] at sum
  have fits : amount.toNat / precision * (precision - b) < 2 ^ 256 :=
    Nat.lt_of_le_of_lt (Nat.le.intro sum) (Nat.lt_of_le_of_lt isLess isWord)
  obtain ⟨whole, rest, scaled⟩ := exists_scale (toNat_slipFactor b ▸ fits)
  obtain ⟨isWhole, isRest⟩ := (scale_eq_some_iff (slipFactor_lt b)).mp scaled
  have unwrapped : ¬ BitVec.uaddOverflow whole (rest / unit) = true := by
    rw [(unwrapped amount b).slipSum whole rest scaled]
    decide
  have exact : (whole + rest / unit).toNat = amount.toNat * (precision - b) / precision := by
    rw [BitVec.toNat_add_of_not_uaddOverflow unwrapped, BitVec.toNat_udiv, toNat_unit, isWhole, isRest,
      toNat_slipFactor, sum]
  rw [slipBy, scaled, Option.map_some, Option.some.injEq, BitVec.toNat_eq, exact, eq_comm]

/-- What is padded is the product divided by a million, rounded up, where that fits a word. -/
theorem padBy_eq_some_iff :
    padBy b amount = some adjusted ↔
      adjusted.toNat = (amount.toNat * min (precision + b) maxBasis) ⌈/⌉ precision := by
  have sum := div_add_ceilDiv amount.toNat (padFactor b).toNat (show 0 < precision by decide)
  have parts {whole rest : Uint256} (scaled : scale amount (padFactor b) = some (whole, rest)) :
      whole.toNat + (divCeil rest unit).toNat = (amount.toNat * min (precision + b) maxBasis) ⌈/⌉ precision := by
    obtain ⟨isWhole, isRest⟩ := (scale_eq_some_iff (padFactor_lt b)).mp scaled
    rw [toNat_divCeil (by decide), toNat_unit, isWhole, isRest, sum, toNat_padFactor]
  rw [padBy, Option.bind_eq_some_iff]
  simp only [Prod.exists, checkedAdd_eq_some_iff]
  constructor
  · rintro ⟨whole, rest, scaled, isSum⟩
    rw [isSum, parts scaled]
  · intro isSum
    have isWord : adjusted.toNat < 2 ^ 256 := adjusted.isLt
    rw [toNat_padFactor] at sum
    have fits : amount.toNat / precision * min (precision + b) maxBasis < 2 ^ 256 :=
      Nat.lt_of_le_of_lt (Nat.le.intro sum) (isSum ▸ isWord)
    obtain ⟨whole, rest, scaled⟩ := exists_scale (toNat_padFactor b ▸ fits)
    exact ⟨whole, rest, scaled, by rw [isSum, parts scaled]⟩

/-- A basis is a number of 64 bits. -/
theorem basis_lt {percent : Float} (isBasis : basis percent = .ok b) : b < 2 ^ 64 := by
  have isSmall : maxBasis < 2 ^ 64 := by decide
  simp only [basis] at isBasis
  split at isBasis
  · cases isBasis
  · cases isBasis
  · split at isBasis
    · cases isBasis
    · obtain rfl := Except.ok.inj isBasis
      rw [millionths]
      split <;> omega

section Limits

variable {percent : Float} (isBasis : basis percent = .ok b)
include isBasis

/-- With a basis, an amount is adjusted or refused as too large. -/
theorem adjust_eq {scaled : Nat → Uint256 → Option Uint256} :
    adjust scaled amount percent = (scaled b amount).elim (.error (.overflow amount percent)) .ok := by
  simp only [adjust, isBasis]
  cases scaled b amount <;> rfl

/-- The lower limit is the product divided by a million, rounded down. -/
theorem slip_eq_ok_iff :
    slip amount percent = .ok adjusted ↔ adjusted.toNat = amount.toNat * (precision - b) / precision := by
  rw [slip, adjust_eq isBasis, ← slipBy_eq_some_iff]
  cases slipBy b amount <;> simp

/-- There is always a lower limit. -/
theorem exists_slip (amount : Uint256) :
    ∃ slipped, slip amount percent = .ok slipped ∧ slipped ≤ amount ∧
      slipped.toNat = amount.toNat * (precision - min b precision) / precision := by
  have isLess := slipped_le amount.toNat b
  have isWord : amount.toNat * (precision - b) / precision < 2 ^ 256 := Nat.lt_of_le_of_lt isLess amount.isLt
  have exact : (BitVec.ofNat 256 (amount.toNat * (precision - b) / precision)).toNat =
      amount.toNat * (precision - b) / precision := by
    rw [BitVec.toNat_ofNat, Nat.mod_eq_of_lt isWord]
  refine ⟨_, (slip_eq_ok_iff isBasis).mpr exact, ?_, ?_⟩
  · rw [BitVec.le_def, exact]
    exact isLess
  · rw [exact, show precision - min b precision = precision - b by omega]

/-- The upper limit is the product divided by a million, rounded up. -/
theorem pad_eq_ok_iff (isSmall : b ≤ 2 ^ 64 - 1 - precision) :
    pad amount percent = .ok adjusted ↔ adjusted.toNat = (amount.toNat * (precision + b)) ⌈/⌉ precision := by
  have factor : min (precision + b) maxBasis = precision + b := by
    have : maxBasis = 2 ^ 64 - 1 := rfl
    have : precision ≤ 2 ^ 64 - 1 := by decide
    omega
  rw [pad, adjust_eq isBasis, ← factor, ← padBy_eq_some_iff]
  cases padBy b amount <;> simp

/-- An upper limit that does not fit a word is refused. -/
theorem pad_eq_error (isSmall : b ≤ 2 ^ 64 - 1 - precision)
    (tooLarge : 2 ^ 256 ≤ (amount.toNat * (precision + b)) ⌈/⌉ precision) :
    pad amount percent = .error (.overflow amount percent) := by
  cases refused : padBy b amount with
  | none => rw [pad, adjust_eq isBasis, refused, Option.elim_none]
  | some padded =>
    have isPadded : pad amount percent = .ok padded := by rw [pad, adjust_eq isBasis, refused, Option.elim_some]
    have isWord : padded.toNat < 2 ^ 256 := padded.isLt
    rw [(pad_eq_ok_iff isBasis isSmall).mp isPadded] at isWord
    omega

/-- Up to the whole amount, the limits lie evenly around it. -/
theorem slip_add_pad (isPart : b ≤ precision) {slipped padded : Uint256} (isSlipped : slip amount percent = .ok slipped)
    (isPadded : pad amount percent = .ok padded) : slipped.toNat + padded.toNat = 2 * amount.toNat := by
  have isSmall : b ≤ 2 ^ 64 - 1 - precision := by
    have : precision ≤ 2 ^ 64 - 1 - precision := by decide
    omega
  rw [(slip_eq_ok_iff isBasis).mp isSlipped, (pad_eq_ok_iff isBasis isSmall).mp isPadded]
  refine div_add_ceilDiv_of_add_eq (by decide) ?_
  calc amount.toNat * (precision - b) + amount.toNat * (precision + b)
      = amount.toNat * (precision - b + (precision + b)) := (Nat.mul_add ..).symm
    _ = precision * (2 * amount.toNat) := by
      rw [show precision - b + (precision + b) = precision * 2 by omega]
      ring

end Limits

/-- An amount is only adjusted under a basis. -/
theorem exists_basis {scaled : Nat → Uint256 → Option Uint256} {percent : Float}
    (isAdjusted : adjust scaled amount percent = .ok adjusted) :
    ∃ b, basis percent = .ok b ∧ scaled b amount = some adjusted := by
  cases isBasis : basis percent with
  | error e => simp [adjust, isBasis] at isAdjusted
  | ok b =>
    refine ⟨b, rfl, ?_⟩
    rw [adjust_eq isBasis] at isAdjusted
    cases isScaled : scaled b amount with
    | none => simp [isScaled] at isAdjusted
    | some result =>
      rw [isScaled, Option.elim_some] at isAdjusted
      rw [Except.ok.inj isAdjusted]

/-- The lower limit is not above the amount. -/
theorem slip_le {percent : Float} (isSlipped : slip amount percent = .ok adjusted) : adjusted ≤ amount := by
  obtain ⟨b, -, isScaled⟩ := exists_basis isSlipped
  rw [BitVec.le_def, slipBy_eq_some_iff.mp isScaled]
  exact slipped_le amount.toNat b

/-- The upper limit is not below the amount. -/
theorem le_pad {percent : Float} (isPadded : pad amount percent = .ok adjusted) : amount ≤ adjusted := by
  obtain ⟨b, -, isScaled⟩ := exists_basis isPadded
  have whole : precision ≤ min (precision + b) maxBasis := by
    have : precision ≤ maxBasis := by decide
    omega
  rw [BitVec.le_def, padBy_eq_some_iff.mp isScaled, Nat.ceilDiv_eq_add_pred_div, Nat.le_div_iff_mul_le (by decide)]
  calc amount.toNat * precision ≤ amount.toNat * min (precision + b) maxBasis := Nat.mul_le_mul_left _ whole
    _ ≤ amount.toNat * min (precision + b) maxBasis + precision - 1 := by
      have : 0 < precision := by decide
      omega

end Adjusting

/-- A finite tolerance that is not negative has a basis. Under it, the least amount accepted is always there, and both
limits are those of the undivided formulas over unbounded numbers; the largest amount paid is refused exactly when it
does not fit a word. Nothing that is not checked wraps on the way, and up to the whole amount the two limits lie evenly
around it. -/
theorem slip_pad_exact (amount : Uint256) {percent : Float} {negative : Bool} {magnitude : Decimal.Magnitude}
    (finite : Decimal.meaning percent = .finite negative magnitude) (isNonneg : ¬ percent < 0.0) :
    ∃ b, basis percent = .ok b ∧ b < 2 ^ 64 ∧ Unwrapped amount b ∧
      (∃ slipped, slip amount percent = .ok slipped ∧ slipped ≤ amount ∧
        slipped.toNat = amount.toNat * (precision - min b precision) / precision) ∧
      (b ≤ 2 ^ 64 - 1 - precision →
        let padded := (amount.toNat * (precision + b)) ⌈/⌉ precision
        (padded < 2 ^ 256 → pad amount percent = .ok (BitVec.ofNat 256 padded)) ∧
        (2 ^ 256 ≤ padded → pad amount percent = .error (.overflow amount percent))) ∧
      (b ≤ precision → ∀ slipped padded, slip amount percent = .ok slipped → pad amount percent = .ok padded →
        slipped.toNat + padded.toNat = 2 * amount.toNat) := by
  obtain ⟨b, isBasis⟩ : ∃ b, basis percent = .ok b :=
    ⟨millionths percent, by simp only [basis, finite, if_neg isNonneg]⟩
  refine ⟨b, isBasis, basis_lt isBasis, unwrapped amount b, exists_slip isBasis amount,
    fun isSmall => ⟨fun fits => ?_, ?_⟩, fun isPart _ _ => slip_add_pad isBasis isPart⟩
  · rw [pad_eq_ok_iff isBasis isSmall, BitVec.toNat_ofNat, Nat.mod_eq_of_lt fits]
  · exact pad_eq_error isBasis isSmall

/-- Under a tenth of a percent, an amount of 76 digits has both limits, and the largest amount only the lower one. -/
theorem tenth_of_percent_exact :
    Decimal.meaning 0.1 = .finite false ⟨7205759403792794, -56, false⟩ ∧ ¬ (0.1 : Float) < 0.0 ∧
      slip (.ofNat 256 (10 ^ 75 + 1)) 0.1 = .ok (.ofNat 256 (999 * 10 ^ 72)) ∧
      pad (.ofNat 256 (10 ^ 75 + 1)) 0.1 = .ok (.ofNat 256 (1001 * 10 ^ 72 + 2)) ∧
      pad (.allOnes 256) 0.1 = .error (.overflow (.allOnes 256) 0.1) := by
  have finite : Decimal.meaning 0.1 = .finite false ⟨7205759403792794, -56, false⟩ := rfl
  have isNonneg : ¬ (0.1 : Float) < 0.0 := by decide
  have isBasis : basis 0.1 = .ok 1000 := rfl
  obtain ⟨b, isBasis', -, -, ⟨slipped, isSlipped, -, exact⟩, padded, -⟩ :=
    slip_pad_exact (.ofNat 256 (10 ^ 75 + 1)) finite isNonneg
  obtain rfl := Except.ok.inj (isBasis.symm.trans isBasis')
  obtain ⟨b, isBasis'', -, -, -, refused, -⟩ := slip_pad_exact (.allOnes 256) finite isNonneg
  obtain rfl := Except.ok.inj (isBasis.symm.trans isBasis'')
  have isExact : slipped = .ofNat 256 (999 * 10 ^ 72) := BitVec.eq_of_toNat_eq (exact.trans (by decide +kernel))
  have isExact' : ((BitVec.ofNat 256 (10 ^ 75 + 1)).toNat * (precision + 1000)) ⌈/⌉ precision =
      1001 * 10 ^ 72 + 2 := by decide +kernel
  refine ⟨finite, isNonneg, isExact ▸ isSlipped, ?_, ?_⟩
  · rw [(padded (by decide)).1 (by decide +kernel), isExact']
  · exact (refused (by decide)).2 (by decide +kernel)

end CallWeave.Slippage
