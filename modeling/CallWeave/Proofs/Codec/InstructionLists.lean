import CallWeave.Clipboard.Params
import CallWeave.Proofs.Codec.Numerals
import Mathlib.Data.List.Forall2

/-!
# The grammar of instruction lists

Which documents are lists of instructions, and which instructions they ask for: `PasteParams.Written`. The
reader looks at the first item alone to tell one instruction from a list of them, and then wants all the others
to agree; it accepts exactly the grammar (`PasteParams.ofJson_eq_ok_iff`). Instructions that are rendered with
their fields in decimal or hexadecimal, in any mixture, are read back.
-/

namespace CallWeave

/-- What is read of a list is read of its items one by one. -/
theorem mapM_eq_some_iff {α β : Type} {read? : α → Option β} {items : List α} {values : List β} :
    items.mapM read? = some values ↔ List.Forall₂ (fun item value => read? item = some value) items values := by
  induction items generalizing values with
  | nil => simp [eq_comm]
  | cons item rest ih =>
    rw [List.mapM_cons, List.forall₂_cons_left_iff]
    constructor
    · intro read
      obtain ⟨value, first, read⟩ := Option.bind_eq_some_iff.mp read
      obtain ⟨others, later, read⟩ := Option.bind_eq_some_iff.mp read
      exact ⟨value, others, first, ih.mp later, (Option.some.inj read).symm⟩
    · rintro ⟨value, others, first, later, rfl⟩
      rw [first, ih.mpr later]
      rfl

/-- A number of 128 bits is read from a text exactly if the text spells it. -/
theorem Numeral.exists_plain_iff {radix : Nat} {digits : List Char} {field : Uint128} :
    (∃ n, plain radix (Nat.pow 2 128) digits = .ok n ∧ BitVec.ofNat 128 n = field) ↔
      SpellsPlain radix digits field.toNat := by
  simp only [plain_eq_ok_iff]
  constructor
  · rintro ⟨n, ⟨spelled, small⟩, rfl⟩
    rwa [BitVec.toNat_ofNat, Nat.mod_eq_of_lt small]
  · exact fun spelled => ⟨field.toNat, ⟨spelled, field.isLt⟩, by simp⟩

namespace PasteParams

/-- A field as it may be written: an integer of 64 bits, or the text of a number of 128 bits, in decimal or
behind `0x` in hexadecimal. -/
inductive FieldWritten : Json → Uint128 → Prop
  | integer {field : Uint128} (small : field.toNat < 2 ^ 64) : FieldWritten (.int field.toNat) field
  | decimal {text : String} {field : Uint128} (spelled : Numeral.SpellsPlain 10 text.toList field.toNat) :
      FieldWritten (.string text) field
  | hexadecimal {text : String} {digits : List Char} {field : Uint128} (behind : text.toList = '0' :: 'x' :: digits)
      (spelled : Numeral.SpellsPlain 16 digits field.toNat) : FieldWritten (.string text) field

/-- An instruction is a list of exactly three fields. -/
inductive InstructionWritten : Json → Instruction → Prop
  | fields {a b c : Json} {i : Instruction} (source : FieldWritten a i.source) (copy : FieldWritten b i.copy)
      (paste : FieldWritten c i.paste) : InstructionWritten (.array [a, b, c]) i

/-- The documents that ask for instructions: an empty list, one instruction, or a list of at least one. -/
inductive Written : Json → PasteParams → Prop
  | empty : Written (.array []) .empty
  | flat {json : Json} {i : Instruction} (one : InstructionWritten json i) : Written json (.flat i)
  | nested {items : List Json} {i : Instruction} {is : List Instruction}
      (all : List.Forall₂ InstructionWritten items (i :: is)) : Written (.array items) (.nested (i :: is))

/-- The kind that the shape of a document announces. -/
def announcedKind : Json → ClipboardKind
  | .array [] => .static
  | .array (.array _ :: _) => .multi
  | _ => .single

/-! ## Reading -/

variable {json : Json} {field : Uint128} {i : Instruction} {params : PasteParams}

/-- A decimal text does not begin with the prefix of a hexadecimal one. -/
theorem not_spellsPlain_prefixed {digits : List Char} {n : Nat} :
    ¬ Numeral.SpellsPlain 10 ('0' :: 'x' :: digits) n := by
  rintro ⟨_, rfl | signed, spelled⟩
  · exact spelled.not_mem (c := 'x') (by decide) (by simp)
  · simp at signed

/-- Behind the prefix a hexadecimal number is read. -/
theorem fieldOfJson?_hexadecimal {text : String} {digits : List Char} (isHex : text.toList = '0' :: 'x' :: digits) :
    fieldOfJson? (.string text) = some field ↔ Numeral.SpellsPlain 16 digits field.toNat := by
  rw [fieldOfJson?, ← Numeral.exists_plain_iff]
  simp only [isHex]
  cases Numeral.plain 16 (Nat.pow 2 128) digits <;> simp

/-- Without it the whole text is read as a decimal number. -/
theorem fieldOfJson?_decimal {text : String} (noPrefix : ∀ digits, text.toList ≠ '0' :: 'x' :: digits) :
    fieldOfJson? (.string text) = some field ↔ Numeral.SpellsPlain 10 text.toList field.toNat := by
  rw [fieldOfJson?, ← Numeral.exists_plain_iff]
  simp only
  split
  case h_1 found => simp [found]
  case h_2 found => simp [found]

theorem fieldOfJson?_eq_some_iff : fieldOfJson? json = some field ↔ FieldWritten json field := by
  cases json with
  | int n =>
    rw [fieldOfJson?]
    constructor
    · intro read
      split at read
      case isTrue small =>
        obtain ⟨m, rfl⟩ := Int.eq_ofNat_of_zero_le small.1
        have small : m < 2 ^ 64 := by exact_mod_cast small.2
        obtain rfl := Option.some.inj read
        have exact : (BitVec.ofNat 128 m).toNat = m := by
          rw [BitVec.toNat_ofNat, Nat.mod_eq_of_lt (by omega)]
        have written : FieldWritten _ (.ofNat 128 m) := .integer (by rwa [exact])
        rwa [exact] at written
      case isFalse => cases read
    · rintro ⟨small⟩
      rw [if_pos ⟨Int.natCast_nonneg _, by exact_mod_cast small⟩]
      simp
  | string text =>
    by_cases prefixed : ∃ digits, text.toList = '0' :: 'x' :: digits
    case pos =>
      obtain ⟨digits, isHex⟩ := prefixed
      rw [fieldOfJson?_hexadecimal isHex]
      constructor
      · exact .hexadecimal isHex
      · intro written
        cases written with
        | decimal spelled => exact absurd (isHex ▸ spelled) not_spellsPlain_prefixed
        | hexadecimal behind spelled =>
          obtain rfl : digits = _ := by simpa using isHex.symm.trans behind
          exact spelled
    case neg =>
      rw [fieldOfJson?_decimal fun digits isHex => prefixed ⟨digits, isHex⟩]
      constructor
      · exact .decimal
      · intro written
        cases written with
        | decimal spelled => exact spelled
        | hexadecimal behind => exact absurd ⟨_, behind⟩ prefixed
  | null | bool | real | array | object | unreadable =>
    simp only [fieldOfJson?, reduceCtorEq, false_iff]
    rintro ⟨⟩

theorem instructionOfJson?_eq_some_iff : instructionOfJson? json = some i ↔ InstructionWritten json i := by
  rw [instructionOfJson?.eq_def]
  split
  case h_1 a b c =>
    have fields : InstructionWritten (.array [a, b, c]) i ↔
        fieldOfJson? a = some i.source ∧ fieldOfJson? b = some i.copy ∧ fieldOfJson? c = some i.paste := by
      rw [fieldOfJson?_eq_some_iff, fieldOfJson?_eq_some_iff, fieldOfJson?_eq_some_iff]
      constructor
      · rintro ⟨source, copy, paste⟩
        exact ⟨source, copy, paste⟩
      · rintro ⟨source, copy, paste⟩
        exact .fields source copy paste
    rw [fields]
    obtain ⟨source, copy, paste⟩ := i
    cases fieldOfJson? a <;> cases fieldOfJson? b <;> cases fieldOfJson? c <;> simp
  case h_2 other =>
    simp only [reduceCtorEq, false_iff]
    rintro ⟨⟩
    exact other _ _ _ rfl

theorem mapM_instructionOfJson?_eq_some_iff {items : List Json} {is : List Instruction} :
    items.mapM instructionOfJson? = some is ↔ List.Forall₂ InstructionWritten items is := by
  rw [mapM_eq_some_iff]
  simp only [instructionOfJson?_eq_some_iff]

/-- A field is no list. -/
theorem not_fieldWritten_array {items : List Json} : ¬ FieldWritten (.array items) field := by
  rintro ⟨⟩

theorem ofJson?_eq_some_iff : ofJson? json = some params ↔ Written json params := by
  rw [ofJson?.eq_def]
  split
  case h_1 =>
    constructor
    · intro read
      obtain rfl := Option.some.inj read
      exact .empty
    · intro written
      cases written with
      | empty => rfl
      | flat one => cases one
      | nested all => cases all
  case h_2 first rest =>
    rw [Option.map_eq_some_iff]
    constructor
    · rintro ⟨is, read, rfl⟩
      have all := mapM_instructionOfJson?_eq_some_iff.mp read
      cases all with
      | cons first rest => exact .nested (.cons first rest)
    · intro written
      cases written with
      | flat one =>
        -- one instruction would have a list for its first field
        cases one with
        | fields source => exact absurd source not_fieldWritten_array
      | nested all => exact ⟨_, mapM_instructionOfJson?_eq_some_iff.mpr all, rfl⟩
  case h_3 notEmpty notNested =>
    rw [Option.map_eq_some_iff]
    constructor
    · rintro ⟨i, read, rfl⟩
      exact .flat (instructionOfJson?_eq_some_iff.mp read)
    · intro written
      cases written with
      | empty => exact absurd rfl notEmpty
      | flat one => exact ⟨_, instructionOfJson?_eq_some_iff.mpr one, rfl⟩
      | nested all =>
        cases all with
        | cons first rest =>
          cases first with
          | fields => exact absurd rfl (notNested _ _)

theorem ofJson_eq_ok_iff : ofJson json = .ok params ↔ Written json params := by
  rw [ofJson, ← ofJson?_eq_some_iff]
  cases ofJson? json <;> simp

/-- Every other document is named in the error. -/
theorem ofJson_eq_error (noList : ∀ params, ¬ Written json params) :
    ofJson json = .error (.unsupportedShape json.compact) := by
  rw [ofJson]
  cases read : ofJson? json with
  | none => rfl
  | some params => exact absurd (ofJson?_eq_some_iff.mp read) (noList params)

/-- Instructions are of the kind that their document announces. -/
theorem Written.kind_eq (written : Written json params) : params.kind = announcedKind json := by
  cases written with
  | empty => rfl
  | flat one =>
    cases one with
    | fields source =>
      cases source <;> rfl
  | nested all =>
    cases all with
    | cons first rest =>
      cases first
      rfl

/-! ## Rendering -/

/-- A field as a text, in hexadecimal or in decimal. -/
def renderField (inHex : Bool) (field : Uint128) : Json :=
  .string (if inHex then Hex.encodeNat field.toNat else toString field.toNat)

/-- The three fields of an instruction as texts; `inHex` says which of them are in hexadecimal. -/
def renderInstruction (inHex : Nat → Bool) (i : Instruction) : Json :=
  .array [renderField (inHex 0) i.source, renderField (inHex 1) i.copy, renderField (inHex 2) i.paste]

/-- Instructions as a document; `inHex` chooses for every field of every instruction. -/
def render (inHex : Nat → Nat → Bool) : PasteParams → Json
  | .empty => .array []
  | .flat i => renderInstruction (inHex 0) i
  | .nested is => .array (is.mapIdx fun place => renderInstruction (inHex place))

theorem fieldWritten_renderField (inHex : Bool) (field : Uint128) : FieldWritten (renderField inHex field) field := by
  rw [renderField]
  cases inHex with
  | false => exact .decimal ⟨_, .inl rfl, Numeral.spells_toString field.toNat⟩
  | true =>
    obtain ⟨digits, text, spelled⟩ := Numeral.exists_encodeNat field.toNat
    exact .hexadecimal text ⟨digits, .inl rfl, spelled⟩

theorem instructionWritten_renderInstruction (inHex : Nat → Bool) (i : Instruction) :
    InstructionWritten (renderInstruction inHex i) i :=
  .fields (fieldWritten_renderField _ _) (fieldWritten_renderField _ _) (fieldWritten_renderField _ _)

/-- Instructions are written by their rendering, in whatever mixture; a list without any is the empty one. -/
theorem written_render (inHex : Nat → Nat → Bool) (params : PasteParams) :
    Written (params.render inHex) (if params = .nested [] then .empty else params) := by
  have all (is : List Instruction) (inHex : Nat → Nat → Bool) :
      List.Forall₂ InstructionWritten (is.mapIdx fun place => renderInstruction (inHex place)) is := by
    induction is generalizing inHex with
    | nil => exact .nil
    | cons i rest ih =>
      rw [List.mapIdx_cons]
      exact .cons (instructionWritten_renderInstruction _ i) (ih fun place => inHex (place + 1))
  cases params with
  | empty => exact .empty
  | flat i => exact .flat (instructionWritten_renderInstruction _ i)
  | nested is =>
    cases is with
    | nil => exact .empty
    | cons i rest => exact .nested (all (i :: rest) inHex)

/-! ## The grammar -/

/-- The reader accepts exactly the documents of the grammar, each as the instructions that it asks for, and names
every other document in its error. What it reads is of the kind that the shape announces and never a list
without instructions. Instructions that are rendered in any mixture of decimal and hexadecimal texts are read
back. -/
theorem ofJson_reads_grammar (json : Json) :
    (∀ params, ofJson json = .ok params ↔ Written json params) ∧
    ((∀ params, ¬ Written json params) → ofJson json = .error (.unsupportedShape json.compact)) ∧
    (∀ params, ofJson json = .ok params → params.kind = announcedKind json ∧ params ≠ .nested []) ∧
    ∀ (inHex : Nat → Nat → Bool) (params : PasteParams),
      ofJson (params.render inHex) = .ok (if params = .nested [] then .empty else params) := by
  refine ⟨fun params => ofJson_eq_ok_iff, ofJson_eq_error, fun params read => ?_, fun inHex params => ?_⟩
  · have written := ofJson_eq_ok_iff.mp read
    refine ⟨written.kind_eq, ?_⟩
    rintro rfl
    cases written
  · exact ofJson_eq_ok_iff.mpr (written_render inHex params)

/-- A list of two instructions, its fields written in four ways. -/
def mixedList : Json :=
  .array [.array [.int 4, .string "+32", .string "0xFf"], .array [.string "0x+0", .string "007", .int 0]]

theorem mixedList_read :
    Written mixedList (.nested [⟨4, 32, 255⟩, ⟨0, 7, 0⟩]) ∧ announcedKind mixedList = .multi ∧
      ofJson (.array [mixedList, .int 4]) = .error (.unsupportedShape (Json.array [mixedList, .int 4]).compact) := by
  obtain ⟨read, -, same, -⟩ := ofJson_reads_grammar mixedList
  have isRead : ofJson mixedList = .ok (.nested [⟨4, 32, 255⟩, ⟨0, 7, 0⟩]) := by rfl
  refine ⟨(read _).mp isRead, (same _ isRead).1.symm, (ofJson_reads_grammar _).2.1 fun params written => ?_⟩
  have refused : ofJson? (.array [mixedList, .int 4]) = none := by rfl
  rw [ofJson?_eq_some_iff.mpr written] at refused
  cases refused

end PasteParams

end CallWeave
