import CallWeave.Json.Reader
import CallWeave.Json.Writer
import Mathlib.Data.Char
import Mathlib.Data.List.TakeWhile

/-!
# Scanning what is written

The scanner gives out one token for each scalar that the writer writes: a text in quotes for every string,
whatever its characters (`tokensFrom_quote`), and a literal for every number and word. Quotes end a string; what
ends a number or a word is the first character behind it that can be no part of it (`Json.Ends`).
-/

namespace CallWeave.Json

variable {rest text reversed : List Char} {c : Char} {scan next : Scan} {given : List Token} {value : Json}

/-! ## Steps -/

/-- A step that goes on gives out its tokens first. -/
theorem tokensFrom_of_step (stepped : step scan c = (given, some next)) (rest : List Char) :
    tokensFrom (c :: rest) scan = given ++ tokensFrom rest next := by
  rw [tokensFrom, stepped]

/-- Between tokens a step is what a character begins, if it begins anything. -/
theorem step_between (c : Char) :
    step .between c = (((begin? c).map Prod.fst).getD [], (begin? c).map Prod.snd) := by
  delta step
  dsimp only
  cases begin? c <;> rfl

theorem step_of_begin (begins : begin? c = some (given, next)) : step .between c = (given, some next) := by
  rw [step_between, begins]
  rfl

theorem step_number (inside : inNumber c = true) (reversed : List Char) :
    step (.number reversed) c = ([], some (.number (c :: reversed))) := if_pos inside

theorem step_word (inside : inWord c = true) (reversed : List Char) :
    step (.word reversed) c = ([], some (.word (c :: reversed))) := if_pos inside

/-- What ends a number begins something else. -/
theorem step_number_end (outside : inNumber c = false) (reversed : List Char) :
    step (.number reversed) c = (numberToken reversed.reverse :: (step .between c).1, (step .between c).2) := by
  refine (if_neg (by simp [outside])).trans ?_
  rw [step_between]
  cases begin? c <;> rfl

theorem step_word_end (outside : inWord c = false) (reversed : List Char) :
    step (.word reversed) c = (wordToken reversed.reverse :: (step .between c).1, (step .between c).2) := by
  refine (if_neg (by simp [outside])).trans ?_
  rw [step_between]
  cases begin? c <;> rfl

/-! ## Numbers and words -/

/-- What may stand behind a number or a word: nothing, or a character that is no part of either. -/
def Ends (rest : List Char) : Prop := ∀ c ∈ rest.head?, inNumber c = false ∧ inWord c = false

/-- A scan that ends with a token gives it out, and what it ended at is scanned afresh. -/
theorem tokensFrom_of_end {token : Token}
    (stepped : step scan c = (token :: (step .between c).1, (step .between c).2)) (rest : List Char) :
    tokensFrom (c :: rest) scan = token :: tokensFrom (c :: rest) .between := by
  rw [tokensFrom, tokensFrom, stepped]
  obtain ⟨given, next | next⟩ := step .between c <;> rfl

/-- A scan that collects some characters takes them up to where it ends. -/
theorem tokensFrom_collected {state : List Char → Scan} {token : List Char → Token} {inside : Char → Bool}
    (takes : ∀ c reversed, inside c = true → step (state reversed) c = ([], some (state (c :: reversed))))
    (gives : ∀ reversed, tokensFrom rest (state reversed) = token reversed.reverse :: tokensFrom rest .between)
    (all : ∀ c ∈ text, inside c = true) :
    tokensFrom (text ++ rest) (state reversed) = token (reversed.reverse ++ text) :: tokensFrom rest .between := by
  induction text generalizing reversed with
  | nil => rw [List.nil_append, List.append_nil, gives]
  | cons c text ih =>
    rw [List.forall_mem_cons] at all
    rw [List.cons_append, tokensFrom_of_step (takes c reversed all.1), ih all.2]
    simp

/-- A number goes on to its end. -/
theorem tokensFrom_number (inside : ∀ c ∈ text, inNumber c = true) (ends : Ends rest) :
    tokensFrom (text ++ rest) (.number reversed) =
      numberToken (reversed.reverse ++ text) :: tokensFrom rest .between := by
  refine tokensFrom_collected (fun c reversed isIn => step_number isIn reversed) (fun reversed => ?_) inside
  cases rest with
  | nil => rfl
  | cons c rest => exact tokensFrom_of_end (step_number_end (ends c rfl).1 reversed) rest

/-- So does a word. -/
theorem tokensFrom_word (inside : ∀ c ∈ text, inWord c = true) (ends : Ends rest) :
    tokensFrom (text ++ rest) (.word reversed) =
      wordToken (reversed.reverse ++ text) :: tokensFrom rest .between := by
  refine tokensFrom_collected (fun c reversed isIn => step_word isIn reversed) (fun reversed => ?_) inside
  cases rest with
  | nil => rfl
  | cons c rest => exact tokensFrom_of_end (step_word_end (ends c rfl).2 reversed) rest

/-- A word is scanned as one token. -/
theorem tokensFrom_of_begin_word (begins : begin? c = some ([], .word [c])) (inside : text.all inWord = true)
    (ends : Ends rest) :
    tokensFrom (c :: text ++ rest) .between = wordToken (c :: text) :: tokensFrom rest .between := by
  rw [List.cons_append, tokensFrom_of_step (step_of_begin begins), tokensFrom_word (List.all_eq_true.mp inside) ends]
  rfl

/-- A mark is a token by itself. -/
theorem tokensFrom_mark {token : Token} (isMark : begin? c = some ([token], .between)) (rest : List Char) :
    tokensFrom (c :: rest) .between = token :: tokensFrom rest .between :=
  tokensFrom_of_step (step_of_begin isMark) rest

/-- A digit begins a number. -/
theorem begin?_of_isDigit (isDigit : Decimal.isDigit c = true) : begin? c = some ([], .number [c]) := by
  have ne (d : Char) (noDigit : Decimal.isDigit d = false) : c ≠ d := by
    rintro rfl
    rw [isDigit] at noDigit
    cases noDigit
  have small : c.toNat ≤ 57 := by
    simp only [Decimal.isDigit, Bool.and_eq_true, decide_eq_true_eq] at isDigit
    exact isDigit.2
  -- the branches are told apart by characters that are no digits, or by codes above all digits
  have noBlank : ¬(c = ' ' ∨ c = '\n' ∨ c = '\t' ∨ c = '\r') := by
    simp [ne ' ' rfl, ne '\n' rfl, ne '\t' rfl, ne '\r' rfl]
  rw [begin?, if_neg noBlank, if_neg (ne _ rfl), if_neg (ne _ rfl), if_neg (by omega), if_neg (by omega),
    if_neg (ne _ rfl), if_neg (ne _ rfl), if_neg (ne _ rfl), if_pos (by simp [isDigit])]

/-- The characters that a number may be written with: the first a digit or a minus sign. -/
structure NumberText (text : List Char) : Prop where
  first : ∃ c ∈ text.head?, Decimal.isDigit c = true ∨ c = '-'
  inside : ∀ c ∈ text, inNumber c = true

/-- A number is scanned as one token. -/
theorem NumberText.tokensFrom (number : NumberText text) (ends : Ends rest) :
    tokensFrom (text ++ rest) .between = numberToken text :: tokensFrom rest .between := by
  obtain ⟨⟨c, isFirst, starts⟩, inside⟩ := number
  obtain ⟨more, rfl⟩ := List.head?_eq_some_iff.mp isFirst
  have begins : begin? c = some ([], .number [c]) := by
    rcases starts with isDigit | rfl
    · exact begin?_of_isDigit isDigit
    · rfl
  rw [List.cons_append, tokensFrom_of_step (step_of_begin begins),
    tokensFrom_number (fun d isIn => inside d (List.mem_cons_of_mem c isIn)) ends]
  rfl

/-- The characters of an exponent. -/
theorem inNumber_of_exponent? {text : List Char} {exponent : Int} (read : Decimal.exponent? text = some exponent) :
    ∀ c ∈ text, inNumber c = true := by
  have digits {digits : List Char} (isDigits : ¬(digits.isEmpty || !digits.all Decimal.isDigit) = true) :
      ∀ c ∈ digits, inNumber c = true := by
    simp only [Bool.or_eq_true, Bool.not_eq_true', not_or, Bool.not_eq_false, List.all_eq_true] at isDigits
    exact fun c isIn => by simp [inNumber, isDigits.2 c isIn]
  rw [Decimal.exponent?.eq_def] at read
  simp only at read
  split at read <;> split at read
  case h_1.isFalse isDigits => exact List.forall_mem_cons.mpr ⟨rfl, digits isDigits⟩
  case h_2.isFalse isDigits => exact List.forall_mem_cons.mpr ⟨rfl, digits isDigits⟩
  case h_3.isFalse isDigits => exact digits isDigits
  all_goals cases read

/-- An exponent behind its mark. -/
theorem inNumber_of_mark {mark : Char} {exponent : List Char} {number : Int → Json}
    (read : (if mark = 'e' ∨ mark = 'E' then (Decimal.exponent? exponent).map number else none) = some value) :
    ∀ c ∈ mark :: exponent, inNumber c = true := by
  split at read
  case isTrue isMark =>
    obtain ⟨exponent, read, -⟩ := Option.map_eq_some_iff.mp read
    exact List.forall_mem_cons.mpr ⟨by rcases isMark with rfl | rfl <;> rfl, inNumber_of_exponent? read⟩
  case isFalse => cases read

/-- What is read as a number without a sign begins with a digit. -/
theorem numberText_of_unsignedNumber? {negative : Bool} (read : unsignedNumber? negative text = some value) :
    (∃ c ∈ text.head?, Decimal.isDigit c = true) ∧ ∀ c ∈ text, inNumber c = true := by
  have digits (text : List Char) : ∀ c ∈ text.takeWhile Decimal.isDigit, Decimal.isDigit c = true :=
    fun c isIn => List.mem_takeWhile_imp isIn
  have inside {digits rest : List Char} (front : ∀ c ∈ digits, Decimal.isDigit c = true)
      (behind : ∀ c ∈ rest, inNumber c = true) : ∀ c ∈ digits ++ rest, inNumber c = true :=
    List.forall_mem_append.mpr ⟨fun c isIn => by simp [inNumber, front c isIn], behind⟩
  have parts (text : List Char) :
      text = text.takeWhile Decimal.isDigit ++ text.dropWhile Decimal.isDigit := List.takeWhile_append_dropWhile.symm
  rw [unsignedNumber?, spanDigits] at read
  simp only at read
  -- the text is cut where the reader cuts it: before the point, behind it, and before the exponent
  have whole := digits text
  rw [parts text]
  generalize text.takeWhile Decimal.isDigit = front at whole read
  generalize text.dropWhile Decimal.isDigit = behind at read
  cases front with
  | nil => cases read
  | cons c front =>
    replace read := (Option.ite_none_left_eq_some.mp read).2
    refine ⟨⟨c, rfl, whole c List.mem_cons_self⟩, inside whole ?_⟩
    split at read
    case h_1 => simp
    case h_2 rest =>
      replace read := (Option.ite_none_left_eq_some.mp read).2
      rw [parts rest]
      refine List.forall_mem_cons.mpr ⟨rfl, inside (digits rest) ?_⟩
      have behindFraction : (spanDigits rest).2 = rest.dropWhile Decimal.isDigit := rfl
      rw [behindFraction] at read
      generalize rest.dropWhile Decimal.isDigit = behind at read ⊢
      split at read
      case h_1 => simp
      case h_2 => exact inNumber_of_mark read
    case h_3 => exact inNumber_of_mark read

/-- Whatever is read as a number is written with a number's characters. -/
theorem numberText_of_numberToken (read : numberToken text = .literal value) : NumberText text := by
  rw [numberToken.eq_def] at read
  simp only at read
  split at read
  case h_2 => cases read
  case h_1 found =>
    cases read
    split at found
    case h_1 rest =>
      exact ⟨⟨'-', rfl, .inr rfl⟩, List.forall_mem_cons.mpr ⟨rfl, (numberText_of_unsignedNumber? found).2⟩⟩
    case h_2 =>
      obtain ⟨⟨c, isFirst, isDigit⟩, inside⟩ := numberText_of_unsignedNumber? found
      exact ⟨⟨c, isFirst, .inl isDigit⟩, inside⟩

/-! ## Integers -/

/-- The decimal digits of a number are read as that number. -/
theorem digitsNumber_toDigits (n : Nat) : Decimal.digitsNumber (Nat.toDigits 10 n) = n := by
  calc Decimal.digitsNumber (Nat.toDigits 10 n) = Nat.ofDigitChars 10 (Nat.toDigits 10 n) 0 := by
        rw [Nat.ofDigitChars_eq_foldl]
        simp [Decimal.digitsNumber, Nat.mul_comm]
    _ = n := Nat.ofDigitChars_ten_toDigits

/-- The decimal text of a positive number does not begin with a zero. -/
theorem exists_toDigits {n : Nat} (pos : 0 < n) : ∃ c rest, Nat.toDigits 10 n = c :: rest ∧ c ≠ '0' := by
  induction n using Nat.strongRecOn with
  | ind n ih =>
    by_cases small : n < 10
    · exact ⟨_, [], Nat.toDigits_of_lt_base small, by simpa using pos.ne'⟩
    · obtain ⟨c, rest, first, notZero⟩ := ih (n / 10) (by omega) (by omega)
      exact ⟨c, rest ++ [(n % 10).digitChar],
        by rw [Nat.toDigits_of_base_le (by decide) (by omega), first, List.cons_append], notZero⟩

/-- Nor is there another reason to refuse it. -/
theorem unsignedNumber?_toDigits (negative : Bool) (n : Nat) (notMinusZero : ¬(negative = true ∧ n = 0)) :
    unsignedNumber? negative (Nat.toDigits 10 n) = some (.int (if negative then -(n : Int) else n)) := by
  have digits : ∀ c ∈ Nat.toDigits 10 n, Decimal.isDigit c = true :=
    fun c isIn => Nat.isDigit_of_mem_toDigits (by decide) (by decide) isIn
  rw [unsignedNumber?, spanDigits, List.takeWhile_eq_self_iff.mpr digits, List.dropWhile_eq_nil_iff.mpr digits]
  simp only [digitsNumber_toDigits, if_neg notMinusZero]
  refine if_neg ?_
  rcases Nat.eq_zero_or_pos n with rfl | pos
  · decide
  · obtain ⟨c, rest, first, notZero⟩ := exists_toDigits pos
    rw [first]
    cases rest <;> simp [notZero]

/-- An integer is read back from its decimal text. -/
theorem numberToken_toString (i : Int) : numberToken (toString i).toList = .literal (.int i) := by
  cases i with
  | ofNat n =>
    have written : (toString (Int.ofNat n)).toList = Nat.toDigits 10 n := Nat.toList_repr
    have noSign : ∀ rest, Nat.toDigits 10 n ≠ '-' :: rest := fun rest same => by
      have isDigit : '-'.isDigit = true :=
        Nat.isDigit_of_mem_toDigits (by decide) (by decide) (same ▸ List.mem_cons_self)
      cases isDigit
    rw [written, numberToken]
    · rw [unsignedNumber?_toDigits false n (by simp)]
      rfl
    · exact fun rest => noSign rest
  | negSucc n =>
    have written : (toString (Int.negSucc n)).toList = '-' :: Nat.toDigits 10 (n + 1) := by
      rw [show toString (Int.negSucc n) = "-" ++ Nat.repr (n + 1) from rfl, String.toList_append, Nat.toList_repr]
      rfl
    rw [written, numberToken.eq_def]
    simp only [unsignedNumber?_toDigits true (n + 1) (by simp)]
    rfl

/-! ## Texts in quotes -/

/-- A text in quotes without half a surrogate pair, as it stands after some characters. -/
def Quoted.holding (reversed : List Char) : Quoted := ⟨reversed, true, none⟩

theorem step_quoted_plain (noQuote : c ≠ '"') (noBackslash : c ≠ '\\') (printable : ¬c.toNat < 32) :
    step (.quoted (.holding reversed)) c = ([], some (.quoted (.holding (c :: reversed)))) := by
  refine (if_neg noQuote).trans ?_
  rw [if_neg noBackslash, if_neg printable]
  rfl

theorem tokensFrom_backslash (rest : List Char) (so : Quoted) :
    tokensFrom ('\\' :: rest) (.quoted so) = tokensFrom rest (.escape so) := by
  have stepped : step (.quoted so) '\\' = ([], some (.escape so)) := rfl
  exact tokensFrom_of_step stepped rest

theorem tokensFrom_unit (rest : List Char) (so : Quoted) :
    tokensFrom ('u' :: rest) (.escape so) = tokensFrom rest (.digits 4 0 so) := by
  have stepped : step (.escape so) 'u' = ([], some (.digits 4 0 so)) := rfl
  exact tokensFrom_of_step stepped rest

/-- An escape of one letter takes the character that it stands for. -/
theorem tokensFrom_letter (letter : Char) (stands : escapeOf? letter = some c) (noUnit : letter ≠ 'u') :
    tokensFrom ('\\' :: letter :: rest) (.quoted (.holding reversed)) =
      tokensFrom rest (.quoted (.holding (c :: reversed))) := by
  have stepped : step (.escape (.holding reversed)) letter = ([], some (.quoted (.holding (c :: reversed)))) := by
    refine (if_neg noUnit).trans ?_
    rw [stands]
    rfl
  rw [tokensFrom_backslash, tokensFrom_of_step stepped, List.nil_append]

/-- A hexadecimal digit as it is written. -/
theorem hexDigit?_written :
    ∀ k < 16, hexDigit? (if k < 10 then Char.ofNat (48 + k) else Char.ofNat (87 + k)) = some k := by decide

theorem step_digits {owed number digit : Nat} {so : Quoted} (isDigit : hexDigit? c = some digit) (more : 1 < owed) :
    step (.digits owed number so) c = ([], some (.digits (owed - 1) (number * 16 + digit) so)) := by
  delta step
  simp only [isDigit]
  exact if_neg (by omega)

/-- An escape of four digits takes the unit that they spell. -/
theorem tokensFrom_fourDigits {unit : Nat} {so : Quoted} (fits : unit < 65536) :
    tokensFrom (fourDigits unit ++ rest) (.digits 4 0 so) = tokensFrom rest (.quoted (so.pushUnit unit)) := by
  have written (k : Nat) := hexDigit?_written (k % 16) (Nat.mod_lt k (by decide))
  have last {number : Nat} (total : number * 16 + unit % 16 = unit) {c : Char}
      (isDigit : hexDigit? c = some (unit % 16)) :
      step (.digits 1 number so) c = ([], some (.quoted (so.pushUnit unit))) := by
    delta step
    simp only [isDigit, total]
    exact if_pos (le_refl 1)
  calc tokensFrom (fourDigits unit ++ rest) (.digits 4 0 so) = _ :=
        tokensFrom_of_step (step_digits (written (unit / 4096)) (by decide)) _
    _ = _ := tokensFrom_of_step (step_digits (written (unit / 256)) (by decide)) _
    _ = _ := tokensFrom_of_step (step_digits (written (unit / 16)) (by decide)) _
    _ = _ := tokensFrom_of_step (last (by omega) (written unit)) _

/-- A character inside quotes is scanned as itself, however it is written. -/
theorem tokensFrom_escapeChar (c : Char) :
    tokensFrom (escapeChar c ++ rest) (.quoted (.holding reversed)) =
      tokensFrom rest (.quoted (.holding (c :: reversed))) := by
  have isChar {n : Nat} (valid : n < 32) (same : c.toNat = n) : c = Char.ofNat n := by
    rw [← same, Char.ofNat_toNat]
  -- the cases are those of the writer: the escapes of one letter, those of four digits, and the character itself
  rw [escapeChar]
  split_ifs with quotes backslash newline return_ tab backspace feed control
  · exact quotes ▸ tokensFrom_letter '"' rfl (by decide)
  · exact backslash ▸ tokensFrom_letter '\\' rfl (by decide)
  · exact newline ▸ tokensFrom_letter 'n' rfl (by decide)
  · exact return_ ▸ tokensFrom_letter 'r' rfl (by decide)
  · exact tab ▸ tokensFrom_letter 't' rfl (by decide)
  · exact isChar (by decide) backspace ▸ tokensFrom_letter 'b' rfl (by decide)
  · exact isChar (by decide) feed ▸ tokensFrom_letter 'f' rfl (by decide)
  · have taken : Quoted.pushUnit (.holding reversed) c.toNat = .holding (c :: reversed) := by
      rw [Quoted.pushUnit, Quoted.holding]
      simp only
      rw [if_neg (by omega), if_neg (by omega), Char.ofNat_toNat]
      rfl
    rw [List.cons_append, List.cons_append, tokensFrom_backslash, tokensFrom_unit,
      tokensFrom_fourDigits (by omega), taken]
  · exact tokensFrom_of_step (step_quoted_plain quotes backslash control) rest

/-- So are all characters up to the closing quotes. -/
theorem tokensFrom_quoted (text : List Char) :
    tokensFrom (text.flatMap escapeChar ++ '"' :: rest) (.quoted (.holding reversed)) =
      .text (some (String.ofList (reversed.reverse ++ text))) :: tokensFrom rest .between := by
  induction text generalizing reversed with
  | nil =>
    have closed : step (.quoted (.holding reversed)) '"' =
        ([.text (some (String.ofList reversed.reverse))], some .between) := rfl
    simpa using tokensFrom_of_step closed rest
  | cons c text ih =>
    rw [List.flatMap_cons, List.append_assoc, tokensFrom_escapeChar, ih]
    simp

/-- A text in quotes is scanned as one token, which holds that text. -/
theorem tokensFrom_quote (text : String) :
    tokensFrom ((quote text).toList ++ rest) .between = .text (some text) :: tokensFrom rest .between := by
  have written : (quote text).toList ++ rest = '"' :: (text.toList.flatMap escapeChar ++ '"' :: rest) := by
    simp [quote]
  have opened : step .between '"' = ([], some (.quoted (.holding []))) := rfl
  rw [written, tokensFrom_of_step opened, tokensFrom_quoted, List.reverse_nil, List.nil_append, List.nil_append,
    String.ofList_toList]

end CallWeave.Json
