import CallWeave.Abi.Decoding
import CallWeave.Abi.Encoding
import CallWeave.Proofs.Codec.Words
import Mathlib.Data.List.Forall2

/-!
# Reading a parameter list back

Every part of a parameter list is found where the reader looks for it. A fixed part stands at its
place among the heads (`wordAt_params`); the head of a moved part leads to its tail (`zoneAt_params`),
behind which the tails of the later parts follow and whatever stands behind the list. Nothing of
that is looked at, so `Part.Reads` says of a part that it is read in every list and with anything
behind: bytes of any length (`reads_bytesPart`), and an array of parts that are read
(`reads_arrayPart`).

A place of more than 64 bits is not read. It stands behind as many bytes, so what is read is every
list of less than `2 ^ 64` bytes, which are those that memory holds.
-/

namespace CallWeave.Abi

/-! ## Heads and tails -/

@[simp] theorem length_numberWord (n : Nat) : (numberWord n).length = 32 := length_bigEndian 32 n

theorem headsSize_append (before after : List Part) :
    headsSize (before ++ after) = headsSize before + headsSize after := by
  induction before with
  | nil => simp [headsSize]
  | cons part rest ih => rw [List.cons_append, headsSize, headsSize, ih, Nat.add_assoc]

theorem tails_append (before after : List Part) : tails (before ++ after) = tails before ++ tails after := by
  induction before with
  | nil => rfl
  | cons part rest ih => cases part <;> simp [tails, ih]

/-- The heads behind some parts count their places behind the tails of these. -/
theorem heads_append (place : Nat) (before after : List Part) :
    heads place (before ++ after) = heads place before ++ heads (place + (tails before).length) after := by
  induction before generalizing place with
  | nil => simp [heads, tails]
  | cons part rest ih => cases part <;> simp [heads, tails, ih, Nat.add_assoc]

@[simp] theorem length_heads (place : Nat) (parts : List Part) : (heads place parts).length = headsSize parts := by
  induction parts generalizing place with
  | nil => rfl
  | cons part rest ih => cases part <;> simp [heads, headsSize, Part.headSize, ih]

/-- A parameter list is as long as its heads and its tails. -/
theorem length_params (parts : List Part) : (params parts).length = headsSize parts + (tails parts).length := by
  simp [params]

/-- Fixed parts stand one behind the other in the heads. -/
theorem heads_fixed (place : Nat) (words : List Bytes) : heads place (words.map .fixed) = words.flatten := by
  induction words with
  | nil => rfl
  | cons word rest ih => rw [List.map_cons, heads, ih, List.flatten_cons]

/-- Fixed parts have no tails. -/
theorem tails_fixed (words : List Bytes) : tails (words.map .fixed) = [] := by
  induction words with
  | nil => rfl
  | cons word rest ih => rw [List.map_cons, tails, ih]

/-- A list of fixed parts is these parts, one behind the other. -/
theorem params_fixed (words : List Bytes) : params (words.map .fixed) = words.flatten := by
  rw [params, heads_fixed, tails_fixed, List.append_nil]

/-! ## Numbers -/

/-- What stands at a place is read there. -/
theorem wordAt_append {front word : Bytes} {place : Nat} (isPlace : front.length = place)
    (isWord : word.length = 32) (behind : Bytes) : wordAt (front ++ (word ++ behind)) place = .ok word := by
  simp only [wordAt, List.drop_left' isPlace, List.take_left' isWord, isWord, ↓reduceIte]

/-- A place or a length that fits 64 bits is read where it stands. -/
theorem numberAt_append {front : Bytes} {place n : Nat} (isPlace : front.length = place) (fits : n < 2 ^ 64)
    (behind : Bytes) : numberAt (front ++ (numberWord n ++ behind)) place = .ok n := by
  have number : fromBigEndian (numberWord n) = n :=
    fromBigEndian_bigEndian_of_lt (Nat.lt_trans fits (by decide))
  have isSmall : n < Nat.pow 2 64 := fits
  simp only [numberAt, wordAt_append isPlace (length_numberWord n), number, isSmall, ↓reduceIte]

/-- The number that opens a zone. -/
theorem numberAt_zero {n : Nat} (fits : n < 2 ^ 64) (behind : Bytes) :
    numberAt (numberWord n ++ behind) 0 = .ok n := by
  have isPlace : ([] : Bytes).length = 0 := rfl
  simpa using numberAt_append isPlace fits behind

/-! ## Parts of a list -/

section Parts

variable (before after : List Part) (behind : Bytes)

/-- A fixed word is read at its place among the heads. -/
theorem wordAt_params {word : Bytes} (isWord : word.length = 32) :
    wordAt (params (before ++ .fixed word :: after) ++ behind) (headsSize before) = .ok word := by
  simp only [params, heads_append, heads, List.append_assoc]
  exact wordAt_append (length_heads _ before) isWord _

/-- The head of a moved part leads to its tail. -/
theorem zoneAt_params {tail : Bytes}
    (fits : headsSize (before ++ .moved tail :: after) + (tails before).length < 2 ^ 64) :
    zoneAt (params (before ++ .moved tail :: after) ++ behind) (headsSize before) =
      .ok (tail ++ (tails after ++ behind)) := by
  generalize whole : before ++ Part.moved tail :: after = parts at fits
  have number : numberAt (params parts ++ behind) (headsSize before) =
      .ok (headsSize parts + (tails before).length) := by
    rw [params, ← whole, heads_append, heads, whole]
    simp only [List.append_assoc]
    exact numberAt_append (length_heads _ before) fits _
  -- all heads and the tails in front stand before the tail
  have parted : params parts ++ behind =
      (heads (headsSize parts) parts ++ tails before) ++ (tail ++ (tails after ++ behind)) := by
    have rest : tails parts = tails before ++ (tail ++ tails after) := by rw [← whole, tails_append, tails]
    simp only [params, rest, List.append_assoc]
  have front : (heads (headsSize parts) parts ++ tails before).length =
      headsSize parts + (tails before).length := by simp
  have inside : headsSize parts + (tails before).length ≤ (params parts ++ behind).length := by
    rw [parted, List.length_append, front]
    exact Nat.le_add_right ..
  simp only [zoneAt, number, if_pos inside]
  rw [parted, List.drop_left' front]

/-- In a list that memory holds, the place of a tail and its length are small. -/
theorem fits_of_length_params {tail : Bytes} (fits : (params (before ++ .moved tail :: after)).length < 2 ^ 64) :
    headsSize (before ++ .moved tail :: after) + (tails before).length < 2 ^ 64 ∧ tail.length < 2 ^ 64 := by
  have length := length_params (before ++ .moved tail :: after)
  rw [tails_append, tails, List.length_append, List.length_append] at length
  omega

end Parts

/-- A part of a list is read as a value, with something behind the list. -/
def Part.ReadsIn {α : Type} (read : Bytes → Nat → Except Error α) (parts : List Part) (behind : Bytes)
    (part : Part) (value : α) : Prop :=
  ∀ before after, parts = before ++ part :: after → read (params parts ++ behind) (headsSize before) = .ok value

/-- A part is read as a value in every list that memory holds, whatever stands behind the list. -/
def Part.Reads {α : Type} (read : Bytes → Nat → Except Error α) (part : Part) (value : α) : Prop :=
  ∀ parts behind, (params parts).length < 2 ^ 64 → part.ReadsIn read parts behind value

/-- A fixed word is read in every list. -/
theorem readsIn_fixed {word : Bytes} (isWord : word.length = 32) (parts : List Part) (behind : Bytes) :
    (Part.fixed word).ReadsIn wordAt parts behind word := by
  rintro before after rfl
  exact wordAt_params before after behind isWord

/-- Bytes of any length are read. -/
theorem reads_bytesPart (bytes : Bytes) : (bytesPart bytes).Reads bytesAt bytes := by
  rintro _ behind fits before after rfl
  obtain ⟨place, length⟩ := fits_of_length_params before after fits
  have isSmall : bytes.length < 2 ^ 64 := by
    simp only [List.length_append] at length
    omega
  rw [bytesAt, bytesPart, zoneAt_params before after behind place]
  simp only [List.append_assoc, numberAt_zero isSmall, List.drop_left' (length_numberWord _), List.take_left,
    ↓reduceIte]

/-! ## Arrays -/

section Arrays

variable {α : Type} {read : Bytes → Nat → Except Error α} {elements : List Part} {values : List α}

/-- Heads of one word each take as many words as there are parts. -/
theorem headsSize_words (words : ∀ part ∈ elements, part.headSize = 32) :
    headsSize elements = 32 * elements.length := by
  induction elements with
  | nil => rfl
  | cons part rest ih =>
    rw [headsSize, words part List.mem_cons_self, ih fun other isIn => words other (List.mem_cons_of_mem _ isIn),
      List.length_cons]
    omega

/-- Elements are read one after the other, each from the place of its own head. -/
theorem elementsAt_params {parts before rest : List Part} {behind : Bytes} (parted : parts = before ++ rest)
    (words : ∀ part ∈ rest, part.headSize = 32)
    (each : List.Forall₂ (Part.ReadsIn read parts behind) rest values) :
    elementsAt read (params parts ++ behind) rest.length (headsSize before) = .ok values := by
  induction each generalizing before with
  | nil => rfl
  | @cons part value rest values first _ ih =>
    have next : headsSize (before ++ [part]) = headsSize before + 32 := by
      rw [headsSize_append, headsSize, headsSize, words part List.mem_cons_self]
    have parted' : parts = (before ++ [part]) ++ rest := by simp [parted]
    have later := ih parted' fun other isIn => words other (List.mem_cons_of_mem _ isIn)
    rw [next] at later
    rw [List.length_cons, elementsAt, first before rest parted, later]

/-- An array is read where its length and its elements stand. -/
theorem arrayAt_of_zoneAt {zone behind : Bytes} {place : Nat}
    (leads : zoneAt zone place = .ok (numberWord elements.length ++ (params elements ++ behind)))
    (fits : elements.length < 2 ^ 64) (words : ∀ part ∈ elements, part.headSize = 32)
    (each : List.Forall₂ (Part.ReadsIn read elements behind) elements values) :
    arrayAt read zone place = .ok values := by
  have all := elementsAt_params (List.nil_append elements).symm words each
  -- there are enough words behind the length, one for each head
  have enough : ¬ (params elements ++ behind).length / 32 < elements.length := by
    rw [List.length_append, length_params, headsSize_words words]
    omega
  simp only [arrayAt, leads, numberAt_zero fits, List.drop_left' (length_numberWord _), if_neg enough]
  exact all

/-- The first element is read, and then the others. -/
theorem elementsAt_succ_eq_ok_iff {zone : Bytes} {count place : Nat} :
    elementsAt read zone (count + 1) place = .ok values ↔
      ∃ first rest, read zone place = .ok first ∧ elementsAt read zone count (place + 32) = .ok rest ∧
        first :: rest = values := by
  rw [elementsAt]
  split
  case h_1 refused => simp only [refused, reduceCtorEq, false_and, exists_false]
  case h_2 first isFirst =>
    split
    case h_1 refused => simp only [refused, reduceCtorEq, false_and, and_false, exists_false]
    case h_2 rest isRest => simp only [isFirst, isRest, Except.ok.injEq, exists_and_left, exists_eq_left']

/-- An array is read in the zone that its head leads to, behind the number of its elements, if there are as many words
behind it. -/
theorem arrayAt_eq_ok_iff {zone : Bytes} {place : Nat} :
    arrayAt read zone place = .ok values ↔
      ∃ inner count, zoneAt zone place = .ok inner ∧ numberAt inner 0 = .ok count ∧
        count ≤ (inner.drop 32).length / 32 ∧ elementsAt read (inner.drop 32) count 0 = .ok values := by
  rw [arrayAt]
  split
  case h_1 refused => simp only [refused, reduceCtorEq, false_and, exists_false]
  case h_2 inner leads =>
    split
    case h_1 refused => simp only [leads, Except.ok.injEq, exists_and_left, exists_eq_left', refused, reduceCtorEq,
      false_and, exists_false]
    case h_2 count counted =>
      simp only [leads, counted, Except.ok.injEq, exists_and_left, exists_eq_left', ← Nat.not_lt]
      split
      case isTrue short => simp only [short, reduceCtorEq, not_true_eq_false, false_and]
      case isFalse enough => simp only [enough, not_false_eq_true, true_and]

/-- As many elements are read as were asked for. -/
theorem length_of_elementsAt {zone : Bytes} {count place : Nat} (ok : elementsAt read zone count place = .ok values) :
    values.length = count := by
  induction count generalizing place values with
  | zero =>
    obtain rfl := Except.ok.inj ok
    rfl
  | succ count ih =>
    obtain ⟨first, rest, -, more, rfl⟩ := elementsAt_succ_eq_ok_iff.mp ok
    rw [List.length_cons, ih more]

/-- What is read as a number fits 64 bits. -/
theorem lt_of_numberAt {zone : Bytes} {place n : Nat} (ok : numberAt zone place = .ok n) : n < 2 ^ 64 := by
  simp only [numberAt] at ok
  split at ok
  · cases ok
  · split at ok
    case isTrue isSmall =>
      obtain rfl := Except.ok.inj ok
      exact isSmall
    case isFalse => cases ok

/-- An array that is read has a length that fits 64 bits. -/
theorem length_lt_of_arrayAt {zone : Bytes} {place : Nat} (ok : arrayAt read zone place = .ok values) :
    values.length < 2 ^ 64 := by
  obtain ⟨inner, count, -, counted, -, elements⟩ := arrayAt_eq_ok_iff.mp ok
  rw [length_of_elementsAt elements]
  exact lt_of_numberAt counted

/-- An array of parts that are read is read. -/
theorem reads_arrayPart (words : ∀ part ∈ elements, part.headSize = 32)
    (each : List.Forall₂ (Part.Reads read) elements values) :
    (arrayPart elements).Reads (arrayAt read) values := by
  rintro _ behind fits before after rfl
  obtain ⟨place, length⟩ := fits_of_length_params before after fits
  rw [List.length_append, length_params, headsSize_words words] at length
  have leads := zoneAt_params before after behind place
  rw [List.append_assoc] at leads
  refine arrayAt_of_zoneAt leads (by omega) words (each.imp fun _ _ reads => reads _ _ ?_)
  rw [length_params, headsSize_words words]
  omega

/-- Entries that are written as an array of bytes are read. -/
theorem bytesArray_params {entries : List Bytes}
    (held : (params [arrayPart (entries.map bytesPart)]).length < 2 ^ 64) :
    bytesArray (params [arrayPart (entries.map bytesPart)]) = .ok entries := by
  have words : ∀ part ∈ entries.map bytesPart, part.headSize = 32 := by
    intro part isPart
    obtain ⟨entry, -, rfl⟩ := List.mem_map.mp isPart
    rfl
  have each : List.Forall₂ (Part.Reads bytesAt) (entries.map bytesPart) entries := by
    rw [List.forall₂_map_left_iff, List.forall₂_same]
    exact fun entry _ => reads_bytesPart entry
  have array := reads_arrayPart words each [arrayPart (entries.map bytesPart)] [] held [] [] rfl
  rwa [List.append_nil] at array

end Arrays

/-! ## Bytes behind -/

section Behind

variable {α : Type} {read : Bytes → Nat → Except Error α} {zone : Bytes} {place : Nat}
  {values : List α}

/-- A reader does not look behind what it reads. -/
def Steady (read : Bytes → Nat → Except Error α) : Prop :=
  ∀ ⦃zone place value⦄, read zone place = .ok value → ∀ behind, read (zone ++ behind) place = .ok value

/-- A word is read where there are 32 bytes. -/
theorem wordAt_eq_ok_iff {word : Bytes} :
    wordAt zone place = .ok word ↔ (zone.drop place).take 32 = word ∧ place + 32 ≤ zone.length := by
  have length : ((zone.drop place).take 32).length = 32 ↔ place + 32 ≤ zone.length := by
    rw [List.length_take, List.length_drop]
    omega
  simp only [wordAt]
  split
  case isTrue isWord => simp only [Except.ok.injEq, length.mp isWord, and_true]
  case isFalse short => simp only [reduceCtorEq, mt length.mpr short, and_false]

theorem length_of_wordAt {word : Bytes} (ok : wordAt zone place = .ok word) : word.length = 32 := by
  obtain ⟨rfl, inside⟩ := wordAt_eq_ok_iff.mp ok
  rw [List.length_take, List.length_drop]
  omega

theorem steady_wordAt : Steady wordAt := by
  intro zone place word ok behind
  obtain ⟨isWord, enough⟩ := wordAt_eq_ok_iff.mp ok
  have length : 32 ≤ (zone.drop place).length := by
    rw [List.length_drop]
    omega
  rw [wordAt_eq_ok_iff, List.drop_append_of_le_length (by omega), List.take_append_of_le_length length,
    List.length_append]
  exact ⟨isWord, by omega⟩

theorem steady_numberAt : Steady numberAt := by
  intro zone place n ok behind
  simp only [numberAt] at ok ⊢
  split at ok
  · cases ok
  case h_2 word read =>
    rw [steady_wordAt read behind]
    exact ok

/-- A number is read out of a whole word. -/
theorem length_of_numberAt {n : Nat} (ok : numberAt zone place = .ok n) : place + 32 ≤ zone.length := by
  simp only [numberAt] at ok
  split at ok
  · cases ok
  case h_2 word read => exact (wordAt_eq_ok_iff.mp read).2

/-- A zone has the same bytes behind it as the one around it. -/
theorem zoneAt_append {inner : Bytes} (ok : zoneAt zone place = .ok inner) (behind : Bytes) :
    zoneAt (zone ++ behind) place = .ok (inner ++ behind) := by
  simp only [zoneAt] at ok ⊢
  split at ok
  · cases ok
  case h_2 offset read =>
    rw [steady_numberAt read behind]
    split at ok
    case isTrue isInside =>
      obtain rfl := Except.ok.inj ok
      have isInside' : offset ≤ (zone ++ behind).length := by
        rw [List.length_append]
        omega
      simp only [if_pos isInside', List.drop_append_of_le_length isInside]
    case isFalse => cases ok

theorem steady_elementsAt (steady : Steady read) (count : Nat) : Steady (elementsAt read · count) := by
  intro zone place values ok behind
  induction count generalizing place values with
  | zero => exact ok
  | succ count ih =>
    obtain ⟨first, rest, isFirst, more, same⟩ := elementsAt_succ_eq_ok_iff.mp ok
    exact elementsAt_succ_eq_ok_iff.mpr ⟨first, rest, steady isFirst behind, ih more, same⟩

theorem steady_arrayAt (steady : Steady read) : Steady (arrayAt read) := by
  intro zone place values ok behind
  obtain ⟨inner, count, leads, counted, enough, elements⟩ := arrayAt_eq_ok_iff.mp ok
  have parted : (inner ++ behind).drop 32 = inner.drop 32 ++ behind :=
    List.drop_append_of_le_length (by simpa using length_of_numberAt counted)
  have enough' : count ≤ ((inner ++ behind).drop 32).length / 32 := by
    rw [parted, List.length_append]
    omega
  refine arrayAt_eq_ok_iff.mpr ⟨_, count, zoneAt_append leads behind, steady_numberAt counted behind, enough', ?_⟩
  rw [parted]
  exact steady_elementsAt steady count elements behind

/-- What holds of everything that is read holds of the elements. -/
theorem forall_mem_of_elementsAt {P : α → Prop} (each : ∀ place value, read zone place = .ok value → P value)
    {count : Nat} (ok : elementsAt read zone count place = .ok values) : ∀ value ∈ values, P value := by
  induction count generalizing place values with
  | zero =>
    obtain rfl := Except.ok.inj ok
    exact List.forall_mem_nil P
  | succ count ih =>
    obtain ⟨first, rest, isFirst, more, rfl⟩ := elementsAt_succ_eq_ok_iff.mp ok
    exact List.forall_mem_cons.mpr ⟨each _ _ isFirst, ih more⟩

/-- So it does of the elements of an array. -/
theorem forall_mem_of_arrayAt {P : α → Prop} (each : ∀ zone place value, read zone place = .ok value → P value)
    (ok : arrayAt read zone place = .ok values) : ∀ value ∈ values, P value := by
  obtain ⟨inner, _, -, -, -, elements⟩ := arrayAt_eq_ok_iff.mp ok
  exact forall_mem_of_elementsAt (each _) elements

end Behind

end CallWeave.Abi
