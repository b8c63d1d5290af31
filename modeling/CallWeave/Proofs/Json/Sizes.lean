import CallWeave.Json.Reader

/-!
# Documents are no larger than their texts

Every item of an array and every member of an object takes a token of its own, and every token takes a character. So a
text has more characters than the document that it is parsed as has entries (`entries_lt_length_of_parse?`).
-/

namespace CallWeave.Json

/-- How many items an array has, or members an object. -/
def entries : Json → Nat
  | .array items => items.length
  | .object members => members.length
  | _ => 0

/-! ## Tokens -/

/-- A literal is neither an array nor an object. -/
def Token.IsPlain (token : Token) : Prop := ∀ json, token = .literal json → json.entries = 0

theorem entries_unsignedNumber? {negative : Bool} {text : List Char} {json : Json}
    (read : unsignedNumber? negative text = some json) : json.entries = 0 := by
  simp only [unsignedNumber?] at read
  replace read := (Option.ite_none_left_eq_some.mp read).2
  split at read
  case h_1 => split at read <;> exact Option.some.inj read ▸ rfl
  case h_2 rest =>
    replace read := (Option.ite_none_left_eq_some.mp read).2
    split at read
    case h_1 =>
      obtain rfl := Option.some.inj read
      split <;> rfl
    case h_2 =>
      obtain ⟨_, -, rfl⟩ := Option.map_eq_some_iff.mp (Option.ite_none_right_eq_some.mp read).2
      split <;> rfl
  case h_3 =>
    obtain ⟨_, -, rfl⟩ := Option.map_eq_some_iff.mp (Option.ite_none_right_eq_some.mp read).2
    split <;> rfl

theorem isPlain_numberToken (text : List Char) : (numberToken text).IsPlain := by
  intro json isLiteral
  rw [numberToken.eq_def] at isLiteral
  simp only at isLiteral
  split at isLiteral
  case h_2 => cases isLiteral
  case h_1 found =>
    cases isLiteral
    split at found <;> exact entries_unsignedNumber? found

theorem isPlain_wordToken (word : List Char) : (wordToken word).IsPlain := by
  intro json isLiteral
  rw [wordToken] at isLiteral
  split at isLiteral
  · cases isLiteral; rfl
  split at isLiteral
  · cases isLiteral; rfl
  split at isLiteral
  · cases isLiteral; rfl
  · cases isLiteral

/-- How many tokens the machine owes for what it has read: the one that it is in the middle of, or one for what it
refuses. -/
def Scan.owed : Option Scan → Nat
  | some .between => 0
  | _ => 1

/-- What is given out for a character, together with what is owed then, takes no more than some room. -/
structure Within (room : Nat) (given : List Token × Option Scan) : Prop where
  short : given.1.length + Scan.owed given.2 ≤ room
  plain : ∀ token ∈ given.1, token.IsPlain

theorem Within.nothing (room : Nat) (next : Option Scan) : Within (1 + room) ([], next) where
  short := by
    have one : Scan.owed next ≤ 1 := by
      rw [Scan.owed.eq_def]
      split <;> decide
    simp only [List.length_nil]
    omega
  plain := List.forall_mem_nil _

/-- What a character begins, if it begins anything, takes the room of one token. -/
def Begun (begun? : Option (List Token × Scan)) : Prop :=
  ∀ given next, begun? = some (given, next) → Within 1 (given, some next)

theorem Begun.nothing (next : Scan) : Begun (some ([], next)) := by
  rintro _ _ ⟨⟩
  exact .nothing 0 _

theorem Begun.mark {token : Token} (plain : token.IsPlain) : Begun (some ([token], .between)) := by
  rintro _ _ ⟨⟩
  exact ⟨Nat.le_refl 1, List.forall_mem_singleton.mpr plain⟩

theorem Begun.ite {condition : Prop} [Decidable condition] {one other : Option (List Token × Scan)} (first : Begun one)
    (second : Begun other) : Begun (if condition then one else other) := by
  split
  · exact first
  · exact second

theorem begun_begin? (c : Char) : Begun (begin? c) := by
  rw [begin?]
  exact .ite (.nothing _) <| .ite (.mark nofun) <| .ite (.mark nofun) <| .ite (.mark nofun) <| .ite (.mark nofun) <|
    .ite (.mark nofun) <| .ite (.mark nofun) <| .ite (.nothing _) <| .ite (.nothing _) <| .ite (.nothing _) nofun

/-- Behind what is given out already, a character gives out one token or begins one. -/
theorem within_begin? {before : List Token} (plain : ∀ token ∈ before, token.IsPlain) (c : Char) :
    Within (before.length + 1)
      (match begin? c with
        | some (tokens, next) => (before ++ tokens, some next)
        | none => (before, none)) := by
  split
  case h_1 given next begins =>
    obtain ⟨short, plain'⟩ := begun_begin? c given next begins
    exact ⟨by simp only [List.length_append] at short ⊢; omega, List.forall_mem_append.mpr ⟨plain, plain'⟩⟩
  case h_2 => exact ⟨Nat.le_refl _, plain⟩

theorem within_step (scan : Scan) (c : Char) : Within (1 + Scan.owed (some scan)) (step scan c) := by
  cases scan with
  | between => exact within_begin? (List.forall_mem_nil _) c
  | word reversed =>
    rw [step]
    split
    · exact .nothing _ _
    · exact within_begin? (List.forall_mem_singleton.mpr (isPlain_wordToken _)) c
  | number reversed =>
    rw [step]
    split
    · exact .nothing _ _
    · exact within_begin? (List.forall_mem_singleton.mpr (isPlain_numberToken _)) c
  | quoted so =>
    simp only [step]
    split
    · exact ⟨Nat.le_add_right 1 _, by simp [Token.IsPlain]⟩
    split
    · exact .nothing _ _
    split <;> exact .nothing _ _
  | escape so =>
    simp only [step]
    split
    · exact .nothing _ _
    split <;> exact .nothing _ _
  | digits owed number so =>
    simp only [step]
    split
    · exact .nothing _ _
    split <;> exact .nothing _ _

theorem within_finish (scan : Scan) :
    (finish scan).length ≤ Scan.owed (some scan) ∧ ∀ token ∈ finish scan, token.IsPlain := by
  cases scan with
  | between => exact ⟨Nat.le_refl _, List.forall_mem_nil _⟩
  | word reversed => exact ⟨Nat.le_refl _, by simpa [finish] using isPlain_wordToken _⟩
  | number reversed => exact ⟨Nat.le_refl _, by simpa [finish] using isPlain_numberToken _⟩
  | _ => exact ⟨Nat.le_refl _, by simp [finish, Token.IsPlain]⟩

theorem within_tokensFrom (text : List Char) (scan : Scan) :
    (tokensFrom text scan).length ≤ text.length + Scan.owed (some scan) ∧
      ∀ token ∈ tokensFrom text scan, token.IsPlain := by
  induction text generalizing scan with
  | nil => simpa [tokensFrom] using within_finish scan
  | cons c rest ih =>
    obtain ⟨short, plain⟩ := within_step scan c
    rw [tokensFrom]
    split
    case h_1 given next stepped =>
      rw [stepped] at short plain
      obtain ⟨others, plainOthers⟩ := ih next
      simp only [List.length_append, List.length_cons] at short ⊢
      exact ⟨by omega, List.forall_mem_append.mpr ⟨plain, plainOthers⟩⟩
    case h_2 given stepped =>
      rw [stepped] at short plain
      have refused : Scan.owed none = 1 := rfl
      rw [refused] at short
      simp only [List.length_append, List.length_cons, List.length_nil] at short ⊢
      exact ⟨by omega, List.forall_mem_append.mpr ⟨plain, by simp [Token.IsPlain]⟩⟩

/-! ## Documents -/

/-- How many entries an open array or object has so far. -/
def Frame.entries : Frame → Nat
  | .items reversed => reversed.length
  | .members reversed _ => reversed.length

/-- What is in the middle of being read has fewer entries than some number. -/
def Expect.Below (bound : Nat) : Expect → Prop
  | .value _ => True
  | .name reversed _ => reversed.length < bound
  | .colon reversed _ => reversed.length < bound
  | .after json => json.entries < bound

/-- Every token makes room for one entry. -/
theorem entries_lt_of_readTokens {tokens rest : List Token} {frames : List Frame} {expect : Expect} {json : Json}
    (bound : Nat) (plain : ∀ token ∈ tokens, token.IsPlain)
    (read : readTokens tokens frames expect = some (json, rest))
    (fewer : ∀ frame ∈ frames, frame.entries < bound) (below : expect.Below bound) :
    json.entries < bound + tokens.length := by
  fun_induction readTokens tokens frames expect generalizing bound
  case case1 tokens document =>
    cases read
    exact Nat.lt_add_right _ below
  all_goals try cases read
  -- The machine goes on. Whatever the token is, what is open or expected gets at most one entry more.
  all_goals
    rename_i ih
    specialize ih (bound + 1)
    simp only [List.forall_mem_cons, List.length_cons, List.length_reverse, Frame.entries, Expect.Below, entries,
      Token.IsPlain] at plain fewer below ih ⊢
    grind [entries]

/-- A text has more characters than its document has entries. -/
theorem entries_lt_length_of_parse? {text : String} {json : Json} (parsed : parse? text = some json) :
    json.entries < text.length := by
  rw [parse?] at parsed
  split at parsed
  case h_2 => cases parsed
  case h_1 document read =>
    cases parsed
    obtain ⟨short, plain⟩ := within_tokensFrom text.toList .between
    calc json.entries
      _ < 0 + (tokens text).length := entries_lt_of_readTokens 0 plain read (List.forall_mem_nil _) trivial
      _ ≤ text.length := by
        rw [Nat.zero_add, ← String.length_toList]
        exact short

/-! ## Values -/

theorem length_itemsAt? {items values : List Json} {depth : Nat} (read : itemsAt? items depth = some values) :
    values.length = items.length := by
  induction items generalizing values with
  | nil => exact Option.some.inj read ▸ rfl
  | cons item rest ih =>
    rw [itemsAt?] at read
    split at read
    case h_1 first further =>
      obtain rfl := Option.some.inj read
      rw [List.length_cons, List.length_cons, ih further]
    case h_2 => cases read

/-- A value that is an array has as many items as its document. -/
theorem entries_of_value?_eq_array {json : Json} {values : List Json} (read : json.value? = some (.array values)) :
    json.entries = values.length := by
  rw [value?] at read
  cases json with
  | array items =>
    rw [valueAt?] at read
    obtain ⟨_, further, same⟩ := Option.map_eq_some_iff.mp (Option.ite_none_left_eq_some.mp read).2
    cases same
    exact (length_itemsAt? further).symm
  | int value =>
    rw [valueAt?] at read
    split at read
    · cases read
    · obtain ⟨_, -, same⟩ := Option.map_eq_some_iff.mp read
      cases same
  | object members =>
    rw [valueAt?] at read
    obtain ⟨_, -, same⟩ := Option.map_eq_some_iff.mp (Option.ite_none_left_eq_some.mp read).2
    cases same
  | null | bool | real | string | unreadable => cases read

end CallWeave.Json
