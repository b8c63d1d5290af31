import CallWeave.Bytes.Numeral
import Mathlib.Data.List.Induction
import Mathlib.Tactic.Ring

/-!
# What numerals spell

`Numeral.Spells` says which number some digits stand for: one digit stands for its value, and a further digit
behind some others multiplies their number by the base and adds its value. The reader of plain numbers accepts
exactly the texts that spell a number below its bound, behind one plus sign or none (`Numeral.plain_eq_ok_iff`).
The decimal and the hexadecimal text of a number spell it, and both kinds of reader read them back.
-/

namespace CallWeave.Numeral

/-- A digit of a base and its value. -/
def Counts (radix : Nat) (c : Char) (value : Nat) : Prop :=
  Hex.digitValue? c = some value ∧ value < radix

instance (radix : Nat) (c : Char) (value : Nat) : Decidable (Counts radix c value) :=
  inferInstanceAs (Decidable (_ ∧ _))

/-- The number that digits stand for, the most significant first. -/
inductive Spells (radix : Nat) : List Char → Nat → Prop
  | digit {c : Char} {value : Nat} (counts : Counts radix c value) : Spells radix [c] value
  | further {digits : List Char} {number : Nat} {c : Char} {value : Nat} (spelled : Spells radix digits number)
      (counts : Counts radix c value) : Spells radix (digits ++ [c]) (number * radix + value)

/-- A plain number: digits, behind one plus sign or none. -/
def SpellsPlain (radix : Nat) (text : List Char) (number : Nat) : Prop :=
  ∃ digits, (text = digits ∨ text = '+' :: digits) ∧ Spells radix digits number

variable {radix bound number start value : Nat} {digits text : List Char} {c : Char}

/-! ## Reading digits from the left -/

theorem Spells.ne_nil (spelled : Spells radix digits number) : digits ≠ [] := by
  cases spelled <;> simp

/-- Every character is a digit. -/
theorem Spells.forall_counts (spelled : Spells radix digits number) :
    ∀ c ∈ digits, ∃ value, Counts radix c value := by
  induction spelled with
  | digit counts => simpa using ⟨_, counts⟩
  | further _ counts ih => exact List.forall_mem_append.mpr ⟨ih, by simpa using ⟨_, counts⟩⟩

/-- A character without a value is not among them. -/
theorem Spells.not_mem (spelled : Spells radix digits number) (none : Hex.digitValue? c = none) : c ∉ digits := by
  intro isIn
  obtain ⟨value, counts, -⟩ := spelled.forall_counts c isIn
  rw [none] at counts
  cases counts

/-- One digit spells its value. -/
theorem spells_singleton_iff : Spells radix [c] number ↔ Counts radix c number := by
  constructor
  · intro spelled
    generalize one : [c] = digits at spelled
    cases spelled with
    | digit counts => exact List.head_eq_of_cons_eq one ▸ counts
    | further spelled => exact absurd (List.append_eq_singleton_iff.mp one.symm) (by simp [spelled.ne_nil])
  · exact .digit

/-- A digit behind others adds its value to their number, moved by one place. -/
theorem spells_append_iff (nonempty : digits ≠ []) : Spells radix (digits ++ [c]) number ↔
    ∃ before value, Spells radix digits before ∧ Counts radix c value ∧ number = before * radix + value := by
  constructor
  · intro spelled
    generalize all : digits ++ [c] = text at spelled
    cases spelled with
    | digit => exact absurd (List.append_eq_singleton_iff.mp all) (by simp [nonempty])
    | @further front before c' value spelled counts =>
      obtain ⟨rfl, same⟩ := List.append_inj' all rfl
      obtain rfl : c = c' := List.head_eq_of_cons_eq same
      exact ⟨before, value, spelled, counts, rfl⟩
  · rintro ⟨before, value, spelled, counts, rfl⟩
    exact spelled.further counts

theorem plainDigits_singleton :
    plainDigits radix bound [c] start = .ok number ↔
      ∃ value, Counts radix c value ∧ number = start * radix + value ∧ number < bound := by
  rw [plainDigits]
  cases digit : Hex.digitValue? c with
  | none => simp [Counts, digit]
  | some value =>
    simp only [Counts, digit, Option.some.injEq, plainDigits]
    by_cases isDigit : value < radix
    · by_cases fits : start * radix + value < bound <;> simp only [isDigit, fits, if_true, if_false]
      · constructor
        · intro same
          obtain rfl := Except.ok.inj same
          exact ⟨value, ⟨rfl, isDigit⟩, rfl, fits⟩
        · rintro ⟨_, ⟨rfl, -⟩, rfl, -⟩
          rfl
      · simp only [reduceCtorEq, false_iff]
        rintro ⟨_, ⟨rfl, -⟩, rfl, less⟩
        exact fits less
    · simp only [isDigit, if_false, reduceCtorEq, false_iff]
      rintro ⟨_, ⟨rfl, less⟩, -⟩
      exact isDigit less

/-- Digits are read one after another. -/
theorem plainDigits_append (digits more : List Char) (start : Nat) :
    plainDigits radix bound (digits ++ more) start =
      (plainDigits radix bound digits start).bind (plainDigits radix bound more) := by
  induction digits generalizing start with
  | nil => rfl
  | cons c rest ih =>
    rw [List.cons_append, plainDigits, plainDigits]
    split
    · split
      · simp only
        split
        · exact ih _
        · rfl
      · rfl
    · rfl

/-- Digits are read exactly if they spell a number below the bound, and as that number. -/
theorem plainDigits_eq_ok_iff (nonempty : digits ≠ []) :
    plainDigits radix bound digits 0 = .ok number ↔ Spells radix digits number ∧ number < bound := by
  induction digits using List.reverseRecOn generalizing number with
  | nil => exact absurd rfl nonempty
  | append_singleton front c ih =>
    rw [plainDigits_append]
    cases front with
    | nil =>
      rw [plainDigits, Except.bind, plainDigits_singleton, List.nil_append, spells_singleton_iff]
      simp only [Nat.zero_mul, Nat.zero_add]
      exact ⟨fun ⟨value, counts, same, less⟩ => ⟨same ▸ counts, less⟩, fun ⟨counts, less⟩ => ⟨_, counts, rfl, less⟩⟩
    | cons d rest =>
      have step : (plainDigits radix bound (d :: rest) 0).bind (plainDigits radix bound [c]) = .ok number ↔
          ∃ before, plainDigits radix bound (d :: rest) 0 = .ok before ∧
            plainDigits radix bound [c] before = .ok number := by
        cases plainDigits radix bound (d :: rest) 0 <;> simp [Except.bind]
      rw [step, spells_append_iff (by simp)]
      constructor
      · rintro ⟨before, read, last⟩
        obtain ⟨spelled, -⟩ := (ih (by simp)).mp read
        obtain ⟨value, counts, same, less⟩ := plainDigits_singleton.mp last
        exact ⟨⟨before, value, spelled, counts, same⟩, less⟩
      · rintro ⟨⟨before, value, spelled, counts, rfl⟩, less⟩
        -- a number does not shrink when a digit is put behind it
        have grows : before ≤ before * radix := Nat.le_mul_of_pos_right _ (Nat.zero_lt_of_lt counts.2)
        exact ⟨before, (ih (by simp)).mpr ⟨spelled, by omega⟩,
          plainDigits_singleton.mpr ⟨value, counts, rfl, less⟩⟩

/-- A text is read as a plain number exactly if it spells one below the bound. -/
theorem plain_eq_ok_iff :
    plain radix bound text = .ok number ↔ SpellsPlain radix text number ∧ number < bound := by
  have plus : Hex.digitValue? '+' = none := by decide
  have minus : Hex.digitValue? '-' = none := by decide
  have unsigned (c : Char) (rest : List Char) (noSign : c ≠ '+') :
      SpellsPlain radix (c :: rest) number ↔ Spells radix (c :: rest) number := by
    constructor
    · rintro ⟨digits, rfl | signed, spelled⟩
      · exact spelled
      · exact absurd (List.head_eq_of_cons_eq signed) noSign
    · exact fun spelled => ⟨_, .inl rfl, spelled⟩
  have signed (rest : List Char) : SpellsPlain radix ('+' :: rest) number ↔ Spells radix rest number := by
    constructor
    · rintro ⟨digits, rfl | signed, spelled⟩
      · exact absurd List.mem_cons_self (spelled.not_mem plus)
      · rwa [List.tail_eq_of_cons_eq signed]
    · exact fun spelled => ⟨_, .inr rfl, spelled⟩
  rw [plain.eq_def]
  split
  case h_1 =>
    simp only [reduceCtorEq, false_iff, not_and]
    rintro ⟨digits, rfl | signed, spelled⟩
    · exact absurd rfl spelled.ne_nil
    · cases signed
  case h_2 =>
    rw [signed]
    simp only [reduceCtorEq, false_iff, not_and]
    exact fun spelled => absurd rfl spelled.ne_nil
  case h_3 =>
    rw [unsigned '-' [] (by decide)]
    simp only [reduceCtorEq, false_iff, not_and]
    exact fun spelled => absurd List.mem_cons_self (spelled.not_mem minus)
  case h_4 _ rest noneLeft =>
    have nonempty : rest ≠ [] := noneLeft
    rw [signed, plainDigits_eq_ok_iff nonempty]
  case h_5 _ nonempty _ _ noSign =>
    cases text with
    | nil => exact absurd rfl nonempty
    | cons c rest =>
      rw [unsigned c rest fun isSign => noSign rest (by rw [isSign]), plainDigits_eq_ok_iff (by simp)]

/-! ## Reading digits from the right -/

/-- Digits from the right add their number, weighted, to what was read before. -/
theorem fromRight_reverse {base : Base} (spelled : Spells base.radix digits number) (weight start : Nat)
    (fits : start + number * weight < 2 ^ 256) :
    fromRight base digits.reverse weight start = .ok (start + number * weight) := by
  have digit {c : Char} {value : Nat} (counts : Counts base.radix c value) :
      c ≠ '_' ∧ digitValue? base c = some value :=
    ⟨fun skipped => absurd List.mem_cons_self ((Spells.digit counts).not_mem (skipped ▸ by decide)),
      by rw [digitValue?, counts.1]; exact if_pos counts.2⟩
  induction spelled generalizing weight start with
  | digit counts =>
    obtain ⟨notSkipped, isDigit⟩ := digit counts
    rw [List.reverse_singleton, fromRight, if_neg notSkipped, isDigit]
    exact if_pos fits
  | @further digits number c value _ counts ih =>
    obtain ⟨notSkipped, isDigit⟩ := digit counts
    have total : start + (number * base.radix + value) * weight =
        start + value * weight + number * (weight * base.radix) := by ring
    rw [total] at fits ⊢
    have next : start + value * weight < Nat.pow 2 256 := Nat.lt_of_le_of_lt (Nat.le_add_right _ _) fits
    rw [List.reverse_append, List.reverse_singleton, List.singleton_append, fromRight, if_neg notSkipped, isDigit]
    exact (if_pos next).trans (ih _ _ fits)

/-! ## Written numbers -/

/-- A decimal digit. -/
theorem counts_digitChar : ∀ value < 10, Counts 10 value.digitChar value := by decide

/-- A hexadecimal digit. -/
theorem counts_hexDigit : ∀ value < 16, Counts 16 (Hex.digit value) value := by decide

/-- The decimal text of a number spells it. -/
theorem spells_toDigits (number : Nat) : Spells 10 (Nat.toDigits 10 number) number := by
  induction number using Nat.strongRecOn with
  | ind number ih =>
    by_cases small : number < 10
    · rw [Nat.toDigits_of_lt_base small]
      exact .digit (counts_digitChar number small)
    · have spelled := (ih (number / 10) (by omega)).further (counts_digitChar _ (Nat.mod_lt number (by decide)))
      rwa [← Nat.toDigits_of_base_le (by decide) (by omega), Nat.div_add_mod'] at spelled

theorem spells_toString (number : Nat) : Spells 10 (toString number).toList number := by
  rw [show (toString number).toList = Nat.toDigits 10 number from Nat.toList_repr]
  exact spells_toDigits number

/-- So does its hexadecimal text, behind the prefix. -/
theorem spells_numberDigits {fuel : Nat} (enough : number < 16 ^ (fuel + 1)) :
    Spells 16 (Hex.numberDigits (fuel + 1) number).reverse number := by
  induction fuel generalizing number with
  | zero =>
    rw [Hex.numberDigits, if_pos (by simpa using enough)]
    exact .digit (counts_hexDigit number (by simpa using enough))
  | succ fuel ih =>
    rw [Hex.numberDigits]
    split
    case isTrue small => exact .digit (counts_hexDigit number small)
    case isFalse =>
      have less : number / 16 < 16 ^ (fuel + 1) := by
        rw [pow_succ] at enough
        omega
      have spelled := (ih less).further (counts_hexDigit _ (Nat.mod_lt number (by decide)))
      rwa [Nat.div_add_mod', ← List.reverse_cons] at spelled

/-- The hexadecimal digits of a number, most significant first. -/
theorem exists_encodeNat (number : Nat) :
    ∃ digits, (Hex.encodeNat number).toList = '0' :: 'x' :: digits ∧ Spells 16 digits number := by
  refine ⟨_, String.toList_ofList, spells_numberDigits ?_⟩
  calc number < 2 ^ (number.log2 + 1) := Nat.lt_log2_self
    _ ≤ 16 ^ (number.log2 + 1) := Nat.pow_le_pow_left (by decide) _

/-- An amount is read back from its hexadecimal text. -/
theorem uint256_encodeNat (amount : Uint256) : uint256 (Hex.encodeNat amount.toNat) = .ok amount := by
  obtain ⟨digits, text, spelled⟩ := exists_encodeNat amount.toNat
  have inBase : Spells Base.sixteen.radix digits amount.toNat := spelled
  have read := fromRight_reverse inBase 1 0 (by simpa using amount.isLt)
  have value : digitsValue .sixteen digits = .ok amount.toNat := by simpa [digitsValue] using read
  rw [uint256, text]
  simp [splitBase, value, Except.map]

end CallWeave.Numeral
