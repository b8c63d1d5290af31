import CallWeave.Proofs.Codec.Reading

/-!
# Clipboards survive their encoding

What a caller asks for is encoded exactly if every field of every instruction fits 80 bits, and then
reading the encoding gives the clipboard back, whatever stands behind it (`Clipboard.decode_toBytes`).
The reader counts the instructions with 64 bits, which is as many as memory holds.

The encoding is a list of words (`Clipboard.toBytes_eq_flatten`). Its header tells the kind and
whether there is a value, and its length tells the number of instructions, so different clipboards
have different encodings, however many instructions they hold (`Clipboard.toBytes_injective`).
-/

namespace CallWeave

/-! ## Fields that are too wide -/

namespace Instruction

variable {i : Instruction}

/-- An instruction that does not fit has a field that is named. -/
theorem exists_overflow?_of_not_fits (isWide : ¬ i.Fits) :
    ∃ field ∈ i.fields, maxField < field.2.toNat ∧ i.overflow? = some (.offsetOverflow field.1 field.2) := by
  rw [← overflow?_eq_none_iff, overflow?, Option.map_eq_none_iff] at isWide
  obtain ⟨field, found⟩ := Option.ne_none_iff_exists'.mp isWide
  refine ⟨field, List.mem_of_find?_eq_some found, ?_, by rw [overflow?, found]; rfl⟩
  simpa using List.find?_some found

end Instruction

/-! ## What a caller asks for -/

@[simp] theorem ClipboardLayout.instructions_ofParams (params : PasteParams) :
    (ClipboardLayout.ofParams params).instructions = params.instructions := by
  rcases params with _ | i | (_ | ⟨first, rest⟩) <;> rfl

@[simp] theorem ClipboardLayout.kind_ofParams (params : PasteParams) :
    (ClipboardLayout.ofParams params).kind = params.kind := by
  rcases params with _ | i | (_ | ⟨first, rest⟩) <;> rfl

namespace Clipboard

/-- Instructions that fit have no field that is too wide. -/
theorem overflow?_of_fits {instructions : List Instruction} (fits : ∀ i ∈ instructions, i.Fits) :
    overflow? instructions = none :=
  List.findSome?_eq_none_iff.mpr fun i isIn => (Instruction.overflow?_eq_none_iff i).mpr (fits i isIn)

/-- The first field that is too wide is reported. -/
theorem exists_overflow?_of_not_fits {instructions : List Instruction} (isWide : ∃ i ∈ instructions, ¬ i.Fits) :
    ∃ i ∈ instructions, ∃ field ∈ i.fields, Instruction.maxField < field.2.toNat ∧
      overflow? instructions = some (.offsetOverflow field.1 field.2) := by
  induction instructions with
  | nil => simp at isWide
  | cons first rest ih =>
    rw [overflow?, List.findSome?_cons]
    by_cases fits : first.Fits
    · obtain ⟨i, isIn, tooWide⟩ := isWide
      have later : i ∈ rest := (List.mem_cons.mp isIn).resolve_left fun same => tooWide (same ▸ fits)
      obtain ⟨j, isLater, found⟩ := ih ⟨i, later, tooWide⟩
      rw [(Instruction.overflow?_eq_none_iff first).mpr fits]
      exact ⟨j, List.mem_cons_of_mem _ isLater, found⟩
    · obtain ⟨field, isField, tooWide, found⟩ := Instruction.exists_overflow?_of_not_fits fits
      rw [found]
      exact ⟨first, List.mem_cons_self, field, isField, tooWide, rfl⟩

/-- What fits becomes a clipboard. -/
theorem ofParams_of_fits {params : PasteParams} (fits : ∀ i ∈ (ClipboardLayout.ofParams params).instructions, i.Fits)
    (value : Uint256) : ofParams params value = .ok ⟨.ofParams params, value, fits⟩ := by
  rw [ofParams, ofLayout]
  split
  case h_1 e found => 
    rw [overflow?_of_fits fits] at found
    cases found
  case h_2 => rfl

/-- What does not fit becomes none. -/
theorem ofParams_of_overflow? {params : PasteParams} {e : ClipboardError}
    (found : overflow? params.instructions = some e) (value : Uint256) : ofParams params value = .error e := by
  rw [← ClipboardLayout.instructions_ofParams] at found
  rw [ofParams, ofLayout]
  split
  case h_1 e' found' => rw [Option.some.inj (found'.symm.trans found)]
  case h_2 none =>
    rw [found] at none
    cases none

/-! ## Reading back -/

variable {c : Clipboard}

/-- The first part is a word that opens with the kind and the flag. -/
theorem exists_layoutParts_eq (c : Clipboard) :
    ∃ padding parts, padding.length = 30 ∧
      c.layoutParts = .fixed (c.kind.code :: c.valueFlag :: padding) :: parts := by
  rw [layoutParts]
  split
  case h_1 => exact ⟨List.replicate 30 0, [], rfl, rfl⟩
  case h_2 i _ => exact ⟨bigEndian 10 i.source.toNat ++ bigEndian 10 i.copy.toNat ++ bigEndian 10 i.paste.toNat, [],
    by simp, rfl⟩
  case h_3 first rest _ => exact ⟨List.replicate 30 0, _, rfl, rfl⟩

/-- The header is read back. -/
theorem decodeHeader_toBytes (c : Clipboard) (behind : Bytes) :
    decodeHeader (c.toBytes ++ behind) = .ok (c.kind, decide (c.value ≠ 0)) := by
  obtain ⟨padding, parts, length, first⟩ := c.exists_layoutParts_eq
  have opens : ∃ rest, c.toBytes ++ behind = c.kind.code :: c.valueFlag :: (padding ++ rest) := by
    rw [toBytes, first]
    exact ⟨_, by simp only [List.cons_append, Abi.params, Abi.heads, List.append_assoc]; rfl⟩
  obtain ⟨rest, opens⟩ := opens
  rw [decodeHeader_eq_ok_iff, opens, ← valueFlag_eq, List.length_cons, List.length_cons, List.length_append]
  exact ⟨by omega, rfl⟩

/-- The value stands behind the parts of the layout. -/
theorem headsSize_layoutParts (c : Clipboard) : Abi.headsSize c.layoutParts = c.layout.valuePlace := by
  rw [layoutParts]
  cases c.layout <;> simp [ClipboardLayout.valuePlace, Abi.headsSize, Abi.Part.headSize, Abi.leftPart, Abi.arrayPart]

/-- The words of a multi clipboard are read back, when their number fits 64 bits. -/
theorem arrayAt_toBytes {first : Instruction} {rest : List Instruction} (layout : c.layout = .multi first rest)
    (held : (first :: rest).length < 2 ^ 64) (behind : Bytes) :
    Abi.arrayAt Abi.wordAt (c.toBytes ++ behind) 32 = .ok ((first :: rest).map fun i => i.packed 0 0) := by
  let elements : List Abi.Part := (first :: rest).map fun i => .fixed (i.packed 0 0)
  obtain ⟨header, parts⟩ : ∃ header : Bytes, header.length = 32 ∧
      c.layoutParts ++ c.valueParts = [.fixed header] ++ Abi.arrayPart elements :: c.valueParts := by
    rw [layoutParts, layout]
    exact ⟨_, rfl, rfl⟩
  have short : Abi.headsSize c.valueParts ≤ 32 := by
    rw [valueParts]
    split <;> simp [Abi.headsSize, Abi.Part.headSize, Abi.uintPart]
  have place : Abi.headsSize [.fixed header] = 32 := parts.1
  have near : Abi.headsSize ([.fixed header] ++ Abi.arrayPart elements :: c.valueParts) +
      (Abi.tails [.fixed header]).length < 2 ^ 64 := by
    rw [Abi.headsSize_append, place, Abi.arrayPart, Abi.headsSize, Abi.Part.headSize, Abi.tails, Abi.tails,
      List.length_nil]
    omega
  have leads := Abi.zoneAt_params [.fixed header] c.valueParts behind near
  rw [place, List.append_assoc] at leads
  rw [toBytes, parts.2]
  refine Abi.arrayAt_of_zoneAt leads (by simpa [elements] using held) ?_ ?_
  · intro part isIn
    obtain ⟨i, -, rfl⟩ := List.mem_map.mp isIn
    exact i.length_packed 0 0
  · rw [List.forall₂_map_left_iff, List.forall₂_map_right_iff, List.forall₂_same]
    exact fun i _ => Abi.readsIn_fixed (i.length_packed 0 0) _ _

/-- An encoding holds its clipboard. -/
theorem standsIn_toBytes (held : c.instructions.length < 2 ^ 64) (behind : Bytes) :
    c.StandsIn (c.toBytes ++ behind) := by
  obtain ⟨long, header⟩ := decodeHeader_eq_ok_iff.mp (decodeHeader_toBytes c behind)
  rw [← valueFlag_eq] at header
  refine ⟨long, header, ?_, fun isThere => ?_⟩
  · rw [instructions] at held
    cases layout : c.layout with
    | static => trivial
    | single i =>
      have parts : c.layoutParts = [.fixed (i.packed ClipboardKind.single.code c.valueFlag)] := by
        rw [layoutParts, kind, layout]
        rfl
      rw [ClipboardLayout.LaidOutIn, toBytes, parts, List.singleton_append, Abi.params, Abi.heads, List.append_assoc,
        List.append_assoc]
      exact List.take_left' (i.length_packed _ _)
    | multi first rest =>
      rw [layout] at held
      exact arrayAt_toBytes layout held behind
  · have word := Abi.wordAt_params c.layoutParts [] behind (length_wordOf c.value)
    rw [headsSize_layoutParts] at word
    rw [toBytes, valueParts, if_neg isThere]
    exact word

/-- Reading an encoding gives the clipboard back, whatever stands behind it. -/
theorem decode_toBytes (held : c.instructions.length < 2 ^ 64) (behind : Bytes) :
    decode (c.toBytes ++ behind) = .ok c :=
  decode_of_standsIn (standsIn_toBytes held behind)

/-- A clipboard that is read, from whatever bytes, holds less than `2 ^ 64` instructions. -/
theorem length_instructions_of_decode {data : Bytes} (ok : decode data = .ok c) :
    c.instructions.length < 2 ^ 64 := by
  have laidOut := (standsIn_of_decode ok).layout
  rw [instructions]
  cases layout : c.layout with
  | static => exact Nat.pow_pos (by decide)
  | single i => exact Nat.one_lt_two_pow (by decide)
  | multi first rest =>
    rw [layout] at laidOut
    have length := Abi.length_lt_of_arrayAt laidOut
    rwa [List.length_map] at length

/-! ## Different clipboards -/

/-- The word of the value, when there is one. -/
def valueWords (c : Clipboard) : List Bytes := if c.value = 0 then [] else [wordOf c.value]

/-- The word that opens an encoding whose header stands alone. -/
def headerWord (c : Clipboard) : Bytes := c.kind.code :: c.valueFlag :: List.replicate 30 0

/-- The words of an encoding. -/
def words (c : Clipboard) : List Bytes :=
  match c.layout with
  | .static => c.headerWord :: c.valueWords
  | .single i => i.packed c.kind.code c.valueFlag :: c.valueWords
  | .multi first rest =>
    c.headerWord :: Abi.numberWord (64 + 32 * c.valueWords.length) :: c.valueWords ++
      Abi.numberWord (rest.length + 1) :: (first :: rest).map fun i => i.packed 0 0

/-- The value is one word or none. -/
theorem valueParts_eq (c : Clipboard) : c.valueParts = c.valueWords.map .fixed := by
  rw [valueParts, valueWords]
  split <;> rfl

theorem length_of_mem_valueWords {word : Bytes} (isWord : word ∈ c.valueWords) : word.length = 32 := by
  rw [valueWords] at isWord
  split at isWord
  · cases isWord
  · rw [List.mem_singleton.mp isWord, length_wordOf]

/-- An encoding is its words, one behind the other. -/
theorem toBytes_eq_flatten (c : Clipboard) : c.toBytes = c.words.flatten := by
  rw [toBytes, words, valueParts_eq]
  cases layout : c.layout with
  | static =>
    have parts : c.layoutParts = [c.headerWord].map .fixed := by rw [layoutParts, layout]; rfl
    rw [parts, ← List.map_append, Abi.params_fixed]
    rfl
  | single i =>
    have parts : c.layoutParts = [i.packed c.kind.code c.valueFlag].map .fixed := by rw [layoutParts, layout]; rfl
    rw [parts, ← List.map_append, Abi.params_fixed]
    rfl
  | multi first rest =>
    let packed : List Bytes := (first :: rest).map fun i => i.packed 0 0
    have parts : c.layoutParts = [.fixed c.headerWord, Abi.arrayPart (packed.map .fixed)] := by
      rw [layoutParts, layout, List.map_map]
      rfl
    have place : Abi.headsSize (c.valueWords.map .fixed) = 32 * c.valueWords.length := by
      rw [Abi.headsSize_words, List.length_map]
      intro part isIn
      obtain ⟨word, isWord, rfl⟩ := List.mem_map.mp isIn
      exact length_of_mem_valueWords isWord
    -- the array stands behind the header, its own place and the value
    have heads : Abi.headsSize (c.layoutParts ++ c.valueWords.map .fixed) = 64 + 32 * c.valueWords.length := by
      rw [parts, Abi.headsSize_append, place]
      rfl
    rw [Abi.params, heads, parts, Abi.heads_append, Abi.tails_append, Abi.heads_fixed, Abi.tails_fixed]
    simp only [Abi.arrayPart, Abi.heads, Abi.tails, Abi.params_fixed, List.length_map, packed, List.append_nil,
      List.append_assoc, List.flatten_cons, List.flatten_append, List.cons_append, List.length_cons]

/-- Every word of an encoding is 32 bytes long. -/
theorem length_of_mem_words : ∀ word ∈ c.words, word.length = 32 := by
  have header : c.headerWord.length = 32 := rfl
  have value : ∀ word ∈ c.valueWords, word.length = 32 := fun _ => length_of_mem_valueWords
  rw [words]
  split
  · exact List.forall_mem_cons.mpr ⟨header, value⟩
  · exact List.forall_mem_cons.mpr ⟨Instruction.length_packed .., value⟩
  · rw [List.forall_mem_append, List.forall_mem_cons, List.forall_mem_cons, List.forall_mem_cons, List.forall_mem_map]
    exact ⟨⟨header, Abi.length_numberWord _, value⟩, Abi.length_numberWord _, fun i _ => i.length_packed 0 0⟩

theorem map_length_words (c : Clipboard) : c.words.map List.length = List.replicate c.words.length 32 :=
  List.eq_replicate_iff.mpr ⟨List.length_map _, fun n isIn => by
    obtain ⟨word, isWord, rfl⟩ := List.mem_map.mp isIn
    exact length_of_mem_words word isWord⟩

/-- An encoding is as long as its words. -/
theorem length_toBytes (c : Clipboard) : c.toBytes.length = 32 * c.words.length := by
  rw [toBytes_eq_flatten, List.length_flatten, map_length_words, List.sum_replicate_nat, Nat.mul_comm]

/-- An encoding tells its words. -/
theorem words_eq_of_toBytes_eq {d : Clipboard} (same : c.toBytes = d.toBytes) : c.words = d.words := by
  have count : c.words.length = d.words.length := by
    have := c.length_toBytes
    have := d.length_toBytes
    rw [same] at *
    omega
  rw [List.eq_iff_flatten_eq, ← toBytes_eq_flatten, ← toBytes_eq_flatten, map_length_words, map_length_words, count]
  exact ⟨same, rfl⟩

/-- The word of a value tells the value. -/
theorem value_eq_of_valueWords_eq {d : Clipboard} (same : c.valueWords = d.valueWords) : c.value = d.value := by
  rw [valueWords, valueWords] at same
  split at same <;> split at same
  case isTrue.isTrue isZero isZero' => rw [isZero, isZero']
  case isTrue.isFalse => cases same
  case isFalse.isTrue => cases same
  case isFalse.isFalse =>
    have same := congrArg fromBigEndian (List.head_eq_of_cons_eq same)
    rw [fromBigEndian_wordOf, fromBigEndian_wordOf] at same
    exact BitVec.eq_of_toNat_eq same

/-- Packed words tell the instructions. -/
theorem eq_of_map_packed_eq {one other : List Instruction} (fits : ∀ i ∈ one, i.Fits) (fits' : ∀ i ∈ other, i.Fits)
    {first second : UInt8} (same : (one.map fun i => i.packed first second) = other.map fun i => i.packed first second) :
    one = other := by
  have unpacked (is : List Instruction) (fits : ∀ i ∈ is, i.Fits) :
      (is.map fun i => i.packed first second).map (fun word => (Instruction.unpack word).2.2) = is := by
    rw [List.map_map]
    refine (List.map_congr_left fun i isIn => ?_).trans (List.map_id is)
    rw [Function.comp_apply, Instruction.unpack_packed (fits i isIn), id_eq]
  rw [← unpacked one fits, same, unpacked other fits']

/-- Different clipboards have different encodings. -/
theorem toBytes_injective : Function.Injective toBytes := by
  intro c d same
  have header := (decodeHeader_toBytes c []).symm.trans ((congrArg (decodeHeader <| · ++ []) same).trans
    (decodeHeader_toBytes d []))
  rw [Except.ok.injEq, Prod.mk.injEq, decide_eq_decide, not_iff_not] at header
  obtain ⟨isKind, isZero⟩ := header
  have count : c.valueWords.length = d.valueWords.length := by
    by_cases hasNone : d.value = 0
    · rw [valueWords, valueWords, if_pos hasNone, if_pos (isZero.mpr hasNone)]
    · rw [valueWords, valueWords, if_neg hasNone, if_neg fun h => hasNone (isZero.mp h), List.length_singleton,
        List.length_singleton]
  have words := words_eq_of_toBytes_eq same
  have fits := c.fits
  have fits' := d.fits
  simp only [Clipboard.words] at words
  simp only [kind] at isKind
  cases layout : c.layout <;> cases layout' : d.layout <;>
    simp only [layout, layout', ClipboardLayout.kind, reduceCtorEq] at words isKind fits fits'
  case static.static =>
    exact eq_of_layout_eq (layout.trans layout'.symm) (value_eq_of_valueWords_eq (List.tail_eq_of_cons_eq words))
  case single.single i j =>
    obtain ⟨packed, value⟩ := List.cons_eq_cons.mp words
    have flag : c.valueFlag = d.valueFlag := by simp only [valueFlag, isZero]
    have isKind : c.kind.code = d.kind.code := by rw [kind, kind, layout, layout']; rfl
    rw [flag, isKind] at packed
    have instructions : [i] = [j] := eq_of_map_packed_eq fits fits' (congrArg (fun word => [word]) packed)
    obtain rfl := List.singleton_inj.mp instructions
    exact eq_of_layout_eq (layout.trans layout'.symm) (value_eq_of_valueWords_eq value)
  case multi.multi first rest first' rest' =>
    rw [List.cons_append, List.cons_append, List.cons_append, List.cons_append] at words
    have behind := List.tail_eq_of_cons_eq (List.tail_eq_of_cons_eq words)
    obtain ⟨value, packed⟩ := List.append_inj behind count
    have instructions := eq_of_map_packed_eq fits fits' (List.tail_eq_of_cons_eq packed)
    obtain ⟨rfl, rfl⟩ := List.cons_eq_cons.mp instructions
    exact eq_of_layout_eq (layout.trans layout'.symm) (value_eq_of_valueWords_eq value)

/-! ## Encoding and reading -/

/-- What fits is encoded, and reading the encoding gives the header and the clipboard back, as long as
the reader can count the instructions; what does not fit is refused for a field that is too wide.
Equal encodings are those of one clipboard. -/
theorem encode_reads_back (params : PasteParams) (value : Uint256) :
    ((∀ i ∈ params.instructions, i.Fits) →
      ∃ c bytes, ofParams params value = .ok c ∧ encode params value = .ok bytes ∧
        (c.kind = params.kind ∧ c.instructions = params.instructions ∧ c.value = value) ∧
        decodeHeader bytes = .ok (params.kind, decide (value ≠ 0)) ∧
        ∀ behind, decode (bytes ++ behind) = .ok c ↔ params.instructions.length < 2 ^ 64) ∧
    ((∃ i ∈ params.instructions, ¬ i.Fits) →
      ∃ i ∈ params.instructions, ∃ field ∈ i.fields, Instruction.maxField < field.2.toNat ∧
        encode params value = .error (.offsetOverflow field.1 field.2)) ∧
    ∀ params' value' bytes, encode params value = .ok bytes → encode params' value' = .ok bytes →
      ofParams params value = ofParams params' value' := by
  refine ⟨fun fits => ?_, fun isWide => ?_, fun params' value' bytes one other => ?_⟩
  · rw [← ClipboardLayout.instructions_ofParams] at fits
    have made := ofParams_of_fits fits value
    have same : ClipboardLayout.instructions (.ofParams params) = params.instructions :=
      ClipboardLayout.instructions_ofParams params
    have header := decodeHeader_toBytes ⟨.ofParams params, value, fits⟩ []
    rw [List.append_nil, kind, ClipboardLayout.kind_ofParams] at header
    refine ⟨_, _, made, by rw [encode, made]; rfl, ⟨ClipboardLayout.kind_ofParams params, same, rfl⟩, header,
      fun behind => ⟨fun read => ?_, fun held => ?_⟩⟩
    · rw [← same]
      exact length_instructions_of_decode read
    · rw [← same] at held
      exact decode_toBytes (c := ⟨.ofParams params, value, fits⟩) held behind
  · obtain ⟨i, isIn, field, isField, tooWide, found⟩ := exists_overflow?_of_not_fits isWide
    exact ⟨i, isIn, field, isField, tooWide, by rw [encode, ofParams_of_overflow? found]; rfl⟩
  · rw [encode] at one other
    cases made : ofParams params value with
    | error e => simp [made, Except.map] at one
    | ok c =>
      cases made' : ofParams params' value' with
      | error e => simp [made', Except.map] at other
      | ok d =>
        rw [made] at one
        rw [made'] at other
        have same : c.toBytes = d.toBytes := (Except.ok.inj one).trans (Except.ok.inj other).symm
        rw [toBytes_injective same]

/-- Two instructions, one of them with a field as wide as there is. -/
def widePastes : PasteParams := .nested [⟨0, 32, 36⟩, ⟨1208925819614629174706175, 0, 1⟩]

theorem widePastes_read_back :
    ∃ c bytes, ofParams widePastes 5 = .ok c ∧ encode widePastes 5 = .ok bytes ∧
      (c.kind = .multi ∧ c.instructions = widePastes.instructions ∧ c.value = 5) ∧
      decodeHeader bytes = .ok (.multi, true) ∧ decode (bytes ++ [255]) = .ok c := by
  have fits : ∀ i ∈ widePastes.instructions, i.Fits := by decide
  obtain ⟨c, bytes, made, encoded, same, header, read⟩ := (encode_reads_back widePastes 5).1 fits
  exact ⟨c, bytes, made, encoded, same, header, (read [255]).mpr (by decide)⟩

end Clipboard

end CallWeave
