import CallWeave.Clipboard.Basic
import CallWeave.Proofs.Codec.Layout

/-!
# Bytes that hold a clipboard

The reader is given whatever bytes arrive. It follows the place of the instructions wherever it leads, into other parts
or over the value, and looks neither at padding nor at what stands behind. `Clipboard.StandsIn` says which bytes hold a
clipboard, part by part, and `Clipboard.decode_eq_ok_iff` that these bytes are read as it and no others are. Bytes
behind change nothing in this (`Clipboard.StandsIn.append`).
-/

namespace CallWeave

/-! ## Words -/

/-- Bytes that hold a word open with two bytes. -/
theorem exists_eq_cons_cons {data : Bytes} (long : 32 ≤ data.length) :
    ∃ first second rest, data = first :: second :: rest := by
  rcases data with _ | ⟨first, _ | ⟨second, rest⟩⟩
  · simp at long
  · simp at long
  · exact ⟨first, second, rest, rfl⟩

/-- Every word is that of the number which it spells. -/
theorem wordOf_fromBigEndian {word : Bytes} (isWord : word.length = 32) :
    wordOf (BitVec.ofNat 256 (fromBigEndian word)) = word := by
  refine eq_of_fromBigEndian_eq (by rw [length_wordOf, isWord]) ?_
  have isSmall : fromBigEndian word < 256 ^ word.length := fromBigEndian_lt word
  rw [isWord] at isSmall
  rw [fromBigEndian_wordOf, BitVec.toNat_ofNat, Nat.mod_eq_of_lt (Nat.lt_of_lt_of_eq isSmall (by decide))]

/-! ## Packed instructions -/

namespace Instruction

variable {i : Instruction}

@[simp] theorem length_packed (i : Instruction) (first second : UInt8) : (i.packed first second).length = 32 := by
  simp [packed]

/-- A field that fits its ten bytes is read at its place. -/
theorem fieldAt_append {front : Bytes} {place : Nat} (isPlace : front.length = place) {field : Uint128}
    (fits : field.toNat ≤ maxField) (behind : Bytes) :
    fieldAt (front ++ (bigEndian 10 field.toNat ++ behind)) place = field := by
  have isSmall : field.toNat < 256 ^ 10 := Nat.lt_of_le_of_lt fits (by decide)
  rw [fieldAt, List.drop_left' isPlace, List.take_left' (length_bigEndian 10 _),
    fromBigEndian_bigEndian_of_lt isSmall, BitVec.ofNat_toNat, BitVec.setWidth_eq]

/-- Packing an instruction that fits loses nothing. -/
theorem unpack_packed (fits : i.Fits) (first second : UInt8) :
    unpack (i.packed first second) = (first, second, i) := by
  obtain ⟨source, copy, paste⟩ := fits
  have atSource : fieldAt (i.packed first second) 2 = i.source := by
    have front : [first, second].length = 2 := rfl
    rw [packed, List.append_assoc]
    exact fieldAt_append front source _
  have atCopy : fieldAt (i.packed first second) 12 = i.copy := by
    have front : (first :: second :: bigEndian 10 i.source.toNat).length = 12 := by simp
    rw [packed, List.append_assoc]
    exact fieldAt_append front copy _
  have atPaste : fieldAt (i.packed first second) 22 = i.paste := by
    have front : (first :: second :: (bigEndian 10 i.source.toNat ++ bigEndian 10 i.copy.toNat)).length = 22 := by
      simp
    have behind := fieldAt_append front paste []
    rwa [List.append_nil] at behind
  rw [unpack, atSource, atCopy, atPaste]
  rfl

/-- The ten bytes of a field are those that it is written with. -/
theorem bigEndian_fieldAt {word : Bytes} {place : Nat} (inside : place + 10 ≤ word.length) :
    bigEndian 10 (fieldAt word place).toNat = (word.drop place).take 10 := by
  have length : ((word.drop place).take 10).length = 10 := by
    rw [List.length_take, List.length_drop]
    omega
  have isSmall : fromBigEndian ((word.drop place).take 10) < 2 ^ 128 := by
    have isSmall := fromBigEndian_lt ((word.drop place).take 10)
    rw [length] at isSmall
    exact Nat.lt_trans isSmall (by decide)
  have written := bigEndian_fromBigEndian ((word.drop place).take 10)
  rw [length] at written
  rw [fieldAt, BitVec.toNat_ofNat, Nat.mod_eq_of_lt isSmall, written]

/-- A word is what it unpacks to, packed again. -/
theorem packed_unpack {word : Bytes} (isWord : word.length = 32) :
    (unpack word).2.2.packed (unpack word).1 (unpack word).2.1 = word := by
  rw [packed, unpack, bigEndian_fieldAt (by omega), bigEndian_fieldAt (by omega), bigEndian_fieldAt (by omega)]
  obtain ⟨first, second, rest, rfl⟩ := exists_eq_cons_cons (Nat.le_of_eq isWord.symm)
  have parted : rest.take 10 ++ (rest.drop 10).take 10 ++ (rest.drop 20).take 10 = rest := by
    have length : rest.length = 10 + 10 + 10 := by simpa using isWord
    rw [← List.take_add, ← List.take_add, List.take_of_length_le (Nat.le_of_eq length)]
  exact congrArg (first :: second :: ·) parted

end Instruction

namespace Clipboard

/-- Words that were packed behind no prefix are unpacked. -/
theorem unpackAll_packed {instructions : List Instruction} (fits : ∀ i ∈ instructions, i.Fits) :
    ∃ unpacked, unpackAll (instructions.map fun i => i.packed 0 0) = .ok unpacked ∧
      unpacked.map (·.1) = instructions := by
  induction instructions with
  | nil => exact ⟨[], rfl, rfl⟩
  | cons i rest ih =>
    obtain ⟨unpacked, ok, same⟩ := ih fun other isIn => fits other (List.mem_cons_of_mem _ isIn)
    have first : ∃ j, unpackPlain (i.packed 0 0) = .ok j ∧ j.1 = i := by
      simp [unpackPlain, Instruction.unpack_packed (fits i List.mem_cons_self)]
    obtain ⟨j, plain, rfl⟩ := first
    exact ⟨j :: unpacked, by simp only [List.map_cons, unpackAll, plain, ok], by rw [List.map_cons, same]⟩

/-- A word without a prefix is its instruction, packed again. -/
theorem packed_of_unpackPlain {word : Bytes} {i : { i : Instruction // i.Fits }} (isWord : word.length = 32)
    (ok : unpackPlain word = .ok i) : i.1.packed 0 0 = word := by
  simp only [unpackPlain] at ok
  split at ok
  case isTrue plain =>
    obtain rfl := Except.ok.inj ok
    obtain ⟨first, second⟩ := plain
    have same := Instruction.packed_unpack isWord
    rwa [first, second] at same
  case isFalse => cases ok

/-- Words that are unpacked are their instructions, packed again. -/
theorem map_packed_of_unpackAll {words : List Bytes} {unpacked : List { i : Instruction // i.Fits }}
    (each : ∀ word ∈ words, word.length = 32) (ok : unpackAll words = .ok unpacked) :
    (unpacked.map (·.1)).map (fun i => i.packed 0 0) = words := by
  induction words generalizing unpacked with
  | nil =>
    obtain rfl := Except.ok.inj ok
    rfl
  | cons word rest ih =>
    rw [List.forall_mem_cons] at each
    simp only [unpackAll] at ok
    split at ok
    · cases ok
    case h_2 i plain =>
      split at ok
      · cases ok
      case h_2 later more =>
        obtain rfl := Except.ok.inj ok
        rw [List.map_cons, List.map_cons, packed_of_unpackPlain each.1 plain, ih each.2 more]

/-! ## Headers and values -/

variable {c : Clipboard} {data : Bytes}

/-- The flag of a value that is announced or not. -/
def flagByte (isAnnounced : Bool) : UInt8 := if isAnnounced then 1 else 0

theorem valueFlag_eq (c : Clipboard) : c.valueFlag = flagByte (decide (c.value ≠ 0)) := by
  simp only [valueFlag, flagByte, ne_eq, decide_eq_true_eq, ite_not]

theorem valueFlag_eq_one_iff (c : Clipboard) : c.valueFlag = 1 ↔ c.value ≠ 0 := by
  rw [valueFlag]
  split <;> simp_all

theorem ofCode?_eq_some_iff {code : UInt8} {kind : ClipboardKind} :
    ClipboardKind.ofCode? code = some kind ↔ code = kind.code := by
  cases kind <;> simp only [ClipboardKind.ofCode?, ClipboardKind.code] <;> grind

/-- A header is read off the two bytes that open a whole word. -/
theorem decodeHeader_eq_ok_iff {kind : ClipboardKind} {isAnnounced : Bool} :
    decodeHeader data = .ok (kind, isAnnounced) ↔
      32 ≤ data.length ∧ data.take 2 = [kind.code, flagByte isAnnounced] := by
  rw [decodeHeader]
  split
  case isTrue short => simp only [reduceCtorEq, Nat.not_le.mpr short, false_and]
  case isFalse long =>
    obtain ⟨first, second, rest, rfl⟩ := exists_eq_cons_cons (Nat.not_lt.mp long)
    have opens : (first :: second :: rest).take 2 = [first, second] := rfl
    simp only [Nat.not_lt.mp long, true_and, opens, List.cons.injEq, and_true, ← ofCode?_eq_some_iff,
      List.getD_cons_zero, List.getD_cons_succ]
    cases ClipboardKind.ofCode? first with
    | none => simp only [reduceCtorEq, false_and]
    | some other =>
      have apart : ¬ (0 : UInt8) = 1 := by decide
      cases isAnnounced <;> simp only [flagByte] <;> grind

/-- A value is read out of its word if it is announced. -/
theorem valueAt_eq_ok_iff {isAnnounced : Bool} {place : Nat} {value : Uint256} :
    valueAt data isAnnounced place = .ok value ↔
      if isAnnounced then Abi.wordAt data place = .ok (wordOf value) else value = 0 := by
  cases isAnnounced with
  | false => simp only [valueAt, Bool.false_eq_true, ↓reduceIte, Except.ok.injEq, eq_comm]
  | true =>
    simp only [valueAt, ↓reduceIte]
    cases read : Abi.wordAt data place with
    | error e => simp only [readError, Except.map, reduceCtorEq]
    | ok word =>
      simp only [readError, Except.map, Except.ok.injEq]
      constructor
      · intro same
        rw [← same, wordOf_fromBigEndian (Abi.length_of_wordAt read)]
      · intro same
        rw [same, fromBigEndian_wordOf, BitVec.ofNat_toNat, BitVec.setWidth_eq]

/-- Clipboards with one layout and one value are one. -/
theorem eq_of_layout_eq {d : Clipboard} (layout : c.layout = d.layout) (value : c.value = d.value) : c = d := by
  obtain ⟨_, _, _⟩ := c
  obtain ⟨_, _, _⟩ := d
  subst layout value
  rfl

/-- A value is taken into a clipboard if it is there or not announced. -/
theorem withValue_eq_ok_iff {isAnnounced : Bool} {value : Uint256} {layout : ClipboardLayout}
    {fits : ∀ i ∈ layout.instructions, i.Fits} :
    withValue isAnnounced value layout fits = .ok c ↔
      c.layout = layout ∧ c.value = value ∧ (isAnnounced = true → value ≠ 0) := by
  rw [withValue]
  split
  case isTrue isMissing =>
    simp only [reduceCtorEq, false_iff]
    rintro ⟨-, -, isThere⟩
    exact isThere isMissing.1 isMissing.2
  case isFalse isThere =>
    rw [Except.ok.injEq]
    constructor
    · rintro rfl
      exact ⟨rfl, rfl, fun isAnnounced isZero => isThere ⟨isAnnounced, isZero⟩⟩
    · rintro ⟨layout, value, -⟩
      exact (eq_of_layout_eq layout value).symm

/-- The value of a clipboard is announced exactly if it is not zero, and then it stands at its place. -/
theorem valued_iff {isAnnounced : Bool} {place : Nat} {layout : ClipboardLayout}
    {fits : ∀ i ∈ layout.instructions, i.Fits} :
    (∃ value, valueAt data isAnnounced place = .ok value ∧ withValue isAnnounced value layout fits = .ok c) ↔
      c.layout = layout ∧ isAnnounced = decide (c.value ≠ 0) ∧
        (c.value ≠ 0 → Abi.wordAt data place = .ok (wordOf c.value)) := by
  simp only [valueAt_eq_ok_iff, withValue_eq_ok_iff]
  cases isAnnounced with
  | false =>
    simp only [Bool.false_eq_true, ↓reduceIte]
    grind
  | true =>
    simp only [↓reduceIte]
    grind

end Clipboard

/-! ## What is read -/

namespace ClipboardLayout

/-- The place of the value, behind the heads of the other parts. -/
def valuePlace : ClipboardLayout → Nat
  | .static | .single _ => 32
  | .multi _ _ => 64

/-- Some bytes hold a layout. A single instruction stands behind the header in one word; several are an array of words,
each without a prefix. -/
def LaidOutIn (layout : ClipboardLayout) (flag : UInt8) (data : Bytes) : Prop :=
  match layout with
  | .static => True
  | .single i => data.take 32 = i.packed ClipboardKind.single.code flag
  | .multi first rest => Abi.arrayAt Abi.wordAt data 32 = .ok ((first :: rest).map fun i => i.packed 0 0)

end ClipboardLayout

namespace Clipboard

variable {c : Clipboard} {data : Bytes}

/-- Some bytes hold a clipboard: they open with its header, and the layout and the value are where they belong. -/
structure StandsIn (c : Clipboard) (data : Bytes) : Prop where
  long : 32 ≤ data.length
  header : data.take 2 = [c.kind.code, c.valueFlag]
  layout : c.layout.LaidOutIn c.valueFlag data
  value : c.value ≠ 0 → Abi.wordAt data c.layout.valuePlace = .ok (wordOf c.value)

/-- The first word is its instruction behind the header. -/
theorem packed_unpack_take {isAnnounced : Bool} {kind : ClipboardKind}
    (opens : decodeHeader data = .ok (kind, isAnnounced)) :
    data.take 32 = (Instruction.unpack (data.take 32)).2.2.packed kind.code (flagByte isAnnounced) := by
  obtain ⟨long, header⟩ := decodeHeader_eq_ok_iff.mp opens
  obtain ⟨first, second, rest, rfl⟩ := exists_eq_cons_cons long
  obtain ⟨rfl, isFlag⟩ := List.cons_eq_cons.mp header
  obtain rfl := List.head_eq_of_cons_eq isFlag
  exact (Instruction.packed_unpack (by rw [List.length_take, Nat.min_eq_left long])).symm

/-- Words that are read and unpacked are those of the instructions. -/
theorem arrayAt_of_unpackAll {words : List Bytes} {unpacked : List { i : Instruction // i.Fits }}
    (read : readError (Abi.arrayAt Abi.wordAt data 32) = .ok words) (ok : unpackAll words = .ok unpacked) :
    Abi.arrayAt Abi.wordAt data 32 = .ok ((unpacked.map (·.1)).map fun i => i.packed 0 0) := by
  cases array : Abi.arrayAt Abi.wordAt data 32 with
  | error e => simp only [array, readError, reduceCtorEq] at read
  | ok words' =>
    obtain rfl : words' = words := by simpa only [array, readError, Except.ok.injEq] using read
    have each : ∀ word ∈ words', word.length = 32 :=
      Abi.forall_mem_of_arrayAt (fun _ _ _ => Abi.length_of_wordAt) array
    rw [map_packed_of_unpackAll each ok]

/-- A clipboard whose parts are read stands in the bytes. -/
theorem standsIn_of_valued {isAnnounced : Bool} {layout : ClipboardLayout} {fits : ∀ i ∈ layout.instructions, i.Fits}
    {value : Uint256} (ok : withValue isAnnounced value layout fits = .ok c)
    (opens : decodeHeader data = .ok (layout.kind, isAnnounced))
    (laidOut : layout.LaidOutIn (flagByte isAnnounced) data)
    (read : valueAt data isAnnounced layout.valuePlace = .ok value) : c.StandsIn data := by
  obtain ⟨long, header⟩ := decodeHeader_eq_ok_iff.mp opens
  obtain ⟨rfl, rfl, valued⟩ := valued_iff.mp ⟨value, read, ok⟩
  rw [← valueFlag_eq] at header laidOut
  exact ⟨long, header, laidOut, valued⟩

/-- Bytes that are read hold what is read. -/
theorem standsIn_of_decode (ok : decode data = .ok c) : c.StandsIn data := by
  simp only [decode] at ok
  split at ok
  · cases ok
  case h_2 kind isAnnounced opens =>
    cases kind with
    | static =>
      simp only at ok
      split at ok
      · cases ok
      case h_2 value read => exact standsIn_of_valued ok opens trivial read
    | single =>
      simp only at ok
      split at ok
      · cases ok
      case h_2 value read => exact standsIn_of_valued ok opens (packed_unpack_take opens) read
    | multi =>
      simp only at ok
      split at ok
      · cases ok
      case h_2 words array =>
        split at ok
        · cases ok
        case h_2 value read =>
          split at ok
          · cases ok
          -- without instructions, both outcomes are errors
          · split at ok <;> cases ok
          case h_3 first rest unpacked =>
            have laidOut := arrayAt_of_unpackAll array unpacked
            exact standsIn_of_valued ok opens laidOut read

/-- Bytes that hold a clipboard are read as it. -/
theorem decode_of_standsIn (stands : c.StandsIn data) : decode data = .ok c := by
  have opens : decodeHeader data = .ok (c.kind, decide (c.value ≠ 0)) :=
    decodeHeader_eq_ok_iff.mpr ⟨stands.long, c.valueFlag_eq ▸ stands.header⟩
  obtain ⟨value, read, valued⟩ : ∃ value, valueAt data (decide (c.value ≠ 0)) c.layout.valuePlace = .ok value ∧
      withValue (decide (c.value ≠ 0)) value c.layout c.fits = .ok c := valued_iff.mpr ⟨rfl, rfl, stands.value⟩
  have laidOut := stands.layout
  -- the layout is in the type of what is read, so the clipboard is taken apart before its layout is
  obtain ⟨layout, amount, fits⟩ := c
  cases layout with
  | static =>
    rw [decode, opens]
    simp only [kind, ClipboardLayout.kind, ClipboardLayout.valuePlace] at read ⊢
    rw [read]
    exact valued
  | single i =>
    have same : (Instruction.unpack (data.take 32)).2.2 = i := by
      rw [laidOut, Instruction.unpack_packed (fits i List.mem_cons_self)]
    subst same
    rw [decode, opens]
    simp only [kind, ClipboardLayout.kind, ClipboardLayout.valuePlace] at read ⊢
    rw [read]
    exact valued
  | multi first rest =>
    have each : ∀ i ∈ first :: rest, i.Fits := fits
    obtain ⟨unpacked, ok, same⟩ := unpackAll_packed each
    obtain ⟨j, later, rfl⟩ : ∃ j later, unpacked = j :: later := List.exists_cons_of_ne_nil (by rintro rfl; cases same)
    simp only [List.map_cons, List.cons.injEq] at same
    obtain ⟨rfl, rfl⟩ := same
    rw [decode, opens]
    simp only [kind, ClipboardLayout.kind, ClipboardLayout.valuePlace] at read ⊢
    rw [laidOut, readError, read]
    simp only [ok]
    exact valued

/-- The bytes that are read as a clipboard are those that hold it. -/
theorem decode_eq_ok_iff : decode data = .ok c ↔ c.StandsIn data :=
  ⟨standsIn_of_decode, decode_of_standsIn⟩

/-- Bytes behind change nothing. -/
theorem StandsIn.append (stands : c.StandsIn data) (behind : Bytes) : c.StandsIn (data ++ behind) where
  long := by
    rw [List.length_append]
    exact Nat.le_add_right_of_le stands.long
  header := by rw [List.take_append_of_le_length (Nat.le_trans (by decide) stands.long), stands.header]
  layout := by
    have laidOut := stands.layout
    cases layout : c.layout with
    | static => trivial
    | single i =>
      rw [layout] at laidOut
      rwa [ClipboardLayout.LaidOutIn, List.take_append_of_le_length stands.long]
    | multi first rest =>
      rw [layout] at laidOut
      exact Abi.steady_arrayAt Abi.steady_wordAt laidOut behind
  value isThere := Abi.steady_wordAt (stands.value isThere) behind

/-- Bytes with a legal header, a layout and a value where it is announced are read. -/
theorem exists_decode {isAnnounced : Bool} (layout : ClipboardLayout) (fits : ∀ i ∈ layout.instructions, i.Fits)
    (opens : decodeHeader data = .ok (layout.kind, isAnnounced))
    (laidOut : layout.LaidOutIn (flagByte isAnnounced) data)
    (isThere : isAnnounced = true → ∃ value, value ≠ 0 ∧ Abi.wordAt data layout.valuePlace = .ok (wordOf value)) :
    ∃ c, decode data = .ok c ∧ c.layout = layout := by
  obtain ⟨long, header⟩ := decodeHeader_eq_ok_iff.mp opens
  obtain ⟨value, isFlag, stands⟩ : ∃ value : Uint256, decide (value ≠ 0) = isAnnounced ∧
      (value ≠ 0 → Abi.wordAt data layout.valuePlace = .ok (wordOf value)) := by
    cases isAnnounced with
    | false => exact ⟨0, by decide, fun isThere => absurd rfl isThere⟩
    | true =>
      obtain ⟨value, isNonzero, word⟩ := isThere rfl
      exact ⟨value, decide_eq_true isNonzero, fun _ => word⟩
  subst isFlag
  let c : Clipboard := ⟨layout, value, fits⟩
  have flag : c.valueFlag = flagByte (decide (value ≠ 0)) := c.valueFlag_eq
  rw [← flag] at header laidOut
  exact ⟨c, decode_of_standsIn ⟨long, header, laidOut, stands⟩, rfl⟩

/-- A word that does not spell zero is that of a value. -/
theorem exists_value (inside : 64 ≤ data.length) (isThere : fromBigEndian ((data.drop 32).take 32) ≠ 0) :
    ∃ value : Uint256, value ≠ 0 ∧ Abi.wordAt data 32 = .ok (wordOf value) := by
  have read : Abi.wordAt data 32 = .ok ((data.drop 32).take 32) := Abi.wordAt_eq_ok_iff.mpr ⟨rfl, inside⟩
  have word := wordOf_fromBigEndian (Abi.length_of_wordAt read)
  refine ⟨_, fun isZero => isThere ?_, by rw [word, read]⟩
  rw [← word, isZero, fromBigEndian_wordOf]
  rfl

end Clipboard

end CallWeave
