import CallWeave.Proofs.Json.Scanning

/-!
# Documents read back from their texts

A document is read back from the text that the writer gives it (`parse?_compact`), under the one condition that no
writer can do without: a number with a point or an exponent has to be read back from its own digits, and there may
be nothing unreadable in it. `Legible` says so of a document, of its items and of its members. The relation
`Reads` is what the induction carries: a text read as a document in front of anything that can follow it, whatever
arrays and objects are open around it.
-/

namespace CallWeave.Json

variable {json item member : Json} {items : List Json} {members : List (String × Json)} {name : String}
variable {text more : List Char}

/-! ## Legible documents -/

/-- A float is read back from the digits that it is written with. -/
def ReadsBack (x : Float) : Prop := numberToken (realText x).toList = .literal (.real x)

/-- The float that a token is the literal of. -/
def Token.real? : Token → Option Float
  | .literal (.real x) => some x
  | _ => none

theorem Token.real?_eq_some_iff {token : Token} {x : Float} :
    token.real? = some x ↔ token = .literal (.real x) := by
  rw [Token.real?.eq_def]
  split <;> simp_all

instance (x : Float) : Decidable (ReadsBack x) := decidable_of_iff _ Token.real?_eq_some_iff

/-- A document whose floats are all read back. -/
inductive Legible : Json → Prop
  | null : Legible .null
  | bool (value : Bool) : Legible (.bool value)
  | int (value : Int) : Legible (.int value)
  | real {value : Float} (back : ReadsBack value) : Legible (.real value)
  | string (value : String) : Legible (.string value)
  | array {items : List Json} (each : ∀ item ∈ items, Legible item) : Legible (.array items)
  | object {members : List (String × Json)} (each : ∀ member ∈ members, Legible member.2) :
    Legible (.object members)

/-- A float that stands in a document. -/
inductive Holds (x : Float) : Json → Prop
  | here : Holds x (.real x)
  | item {items : List Json} {item : Json} (isItem : item ∈ items) (holds : Holds x item) : Holds x (.array items)
  | member {members : List (String × Json)} {member : String × Json} (isMember : member ∈ members)
    (holds : Holds x member.2) : Holds x (.object members)

@[simp] theorem holds_real {x y : Float} : Holds x (.real y) ↔ x = y :=
  ⟨fun holds => by cases holds; rfl, fun same => same ▸ .here⟩

@[simp] theorem not_holds_null {x : Float} : ¬Holds x .null := nofun

@[simp] theorem not_holds_int {x : Float} {value : Int} : ¬Holds x (.int value) := nofun

@[simp] theorem not_holds_string {x : Float} {value : String} : ¬Holds x (.string value) := nofun

@[simp] theorem holds_array {x : Float} : Holds x (.array items) ↔ ∃ item ∈ items, Holds x item :=
  ⟨fun holds => by cases holds with | item isItem holds => exact ⟨_, isItem, holds⟩,
    fun ⟨_, isItem, holds⟩ => .item isItem holds⟩

@[simp] theorem holds_object {x : Float} : Holds x (.object members) ↔ ∃ member ∈ members, Holds x member.2 :=
  ⟨fun holds => by cases holds with | member isMember holds => exact ⟨_, isMember, holds⟩,
    fun ⟨_, isMember, holds⟩ => .member isMember holds⟩

/-! ## Reading a token -/

section

variable {tokens : List Token} {frames : List Frame} {closable : Bool} {reversed : List (String × Json)}
  {items : List Json}

theorem readTokens_literal :
    readTokens (.literal json :: tokens) frames (.value closable) = readTokens tokens frames (.after json) := by
  cases frames <;> rfl

theorem readTokens_text {value : String} :
    readTokens (.text (some value) :: tokens) frames (.value closable) =
      readTokens tokens frames (.after (.string value)) := by
  cases frames <;> rfl

theorem readTokens_openArray :
    readTokens (.openArray :: tokens) frames (.value closable) =
      readTokens tokens (.items [] :: frames) (.value true) := by
  cases frames <;> rfl

theorem readTokens_openObject :
    readTokens (.openObject :: tokens) frames (.value closable) = readTokens tokens frames (.name [] true) := by
  cases frames <;> rfl

theorem readTokens_emptyArray :
    readTokens (.closeArray :: tokens) (.items [] :: frames) (.value true) =
      readTokens tokens frames (.after (.array [])) := rfl

theorem readTokens_emptyObject :
    readTokens (.closeObject :: tokens) frames (.name [] true) = readTokens tokens frames (.after (.object [])) := by
  cases frames <;> rfl

theorem readTokens_item :
    readTokens (.comma :: tokens) (.items items :: frames) (.after json) =
      readTokens tokens (.items (json :: items) :: frames) (.value false) := rfl

theorem readTokens_closeArray :
    readTokens (.closeArray :: tokens) (.items items :: frames) (.after json) =
      readTokens tokens frames (.after (.array (items.reverse ++ [json]))) := by
  rw [← List.reverse_cons]
  rfl

theorem readTokens_name :
    readTokens (.text (some name) :: .colon :: tokens) frames (.name reversed closable) =
      readTokens tokens (.members reversed name :: frames) (.value false) := by
  cases frames <;> rfl

theorem readTokens_member :
    readTokens (.comma :: tokens) (.members reversed name :: frames) (.after json) =
      readTokens tokens frames (.name ((name, json) :: reversed) false) := rfl

theorem readTokens_closeObject :
    readTokens (.closeObject :: tokens) (.members reversed name :: frames) (.after json) =
      readTokens tokens frames (.after (.object (reversed.reverse ++ [(name, json)]))) := by
  rw [← List.reverse_cons]
  rfl

end

/-! ## Reading in front of a text -/

/-- A text is read as a document, whatever stands behind it and whatever is open around it. -/
def Reads (json : Json) (text : List Char) : Prop :=
  ∀ rest frames closable, Ends rest →
    readTokens (tokensFrom (text ++ rest) .between) frames (.value closable) =
      readTokens (tokensFrom rest .between) frames (.after json)

/-- A text is read as the further items of an array up to its end. -/
def ReadsItems (items : List Json) (text : List Char) : Prop :=
  ∀ reversed rest frames closable,
    readTokens (tokensFrom (text ++ ']' :: rest) .between) (.items reversed :: frames) (.value closable) =
      readTokens (tokensFrom rest .between) frames (.after (.array (reversed.reverse ++ items)))

/-- A text is read as the further members of an object up to its end. -/
def ReadsMembers (members : List (String × Json)) (text : List Char) : Prop :=
  ∀ reversed rest frames closable,
    readTokens (tokensFrom (text ++ '\x7d' :: rest) .between) frames (.name reversed closable) =
      readTokens (tokensFrom rest .between) frames (.after (.object (reversed.reverse ++ members)))

theorem ends_nil : Ends [] := by simp [Ends]

theorem ends_cons {c : Char} (rest : List Char) (outside : inNumber c = false ∧ inWord c = false) :
    Ends (c :: rest) := by
  simpa [Ends] using outside

/-- A literal is read from its token. -/
theorem Reads.of_literal
    (scanned : ∀ rest, Ends rest → tokensFrom (text ++ rest) .between = .literal json :: tokensFrom rest .between) :
    Reads json text := by
  intro rest frames closable ends
  rw [scanned rest ends, readTokens_literal]

theorem Reads.string (value : String) : Reads (.string value) (quote value).toList := by
  intro rest frames closable _
  rw [tokensFrom_quote, readTokens_text]

theorem Reads.number (isNumber : numberToken text = .literal json) : Reads json text :=
  .of_literal fun _ ends => by rw [(numberText_of_numberToken isNumber).tokensFrom ends, isNumber]

/-- The last item of an array. -/
theorem ReadsItems.last (read : Reads item text) : ReadsItems [item] text := by
  intro reversed rest frames closable
  rw [read _ _ _ (ends_cons rest ⟨rfl, rfl⟩), tokensFrom_mark rfl, readTokens_closeArray]

/-- An item in front of others. -/
theorem ReadsItems.cons (read : Reads item text) (further : ReadsItems items more) :
    ReadsItems (item :: items) (text ++ ',' :: more) := by
  intro reversed rest frames closable
  rw [List.append_assoc, List.cons_append, read _ _ _ (ends_cons _ ⟨rfl, rfl⟩), tokensFrom_mark rfl, readTokens_item,
    further, List.reverse_cons, List.append_assoc, List.singleton_append]

/-- A member is its name, a colon and its document. -/
theorem Reads.named {rest : List Char} {frames : List Frame} {reversed : List (String × Json)} {closable : Bool}
    (read : Reads member text) (ends : Ends rest) :
    readTokens (tokensFrom ((quote name).toList ++ ':' :: text ++ rest) .between) frames (.name reversed closable) =
      readTokens (tokensFrom rest .between) (.members reversed name :: frames) (.after member) := by
  rw [List.append_assoc, List.cons_append, tokensFrom_quote, tokensFrom_mark rfl, readTokens_name, read _ _ _ ends]

/-- The last member of an object. -/
theorem ReadsMembers.last (read : Reads member text) :
    ReadsMembers [(name, member)] ((quote name).toList ++ ':' :: text) := by
  intro reversed rest frames closable
  rw [read.named (ends_cons rest ⟨rfl, rfl⟩), tokensFrom_mark rfl, readTokens_closeObject]

/-- A member in front of others. -/
theorem ReadsMembers.cons (read : Reads member text) (further : ReadsMembers members more) :
    ReadsMembers ((name, member) :: members) ((quote name).toList ++ ':' :: text ++ ',' :: more) := by
  intro reversed rest frames closable
  rw [List.append_assoc _ (',' :: more), List.cons_append, read.named (ends_cons _ ⟨rfl, rfl⟩),
    tokensFrom_mark rfl, readTokens_member, further, List.reverse_cons, List.append_assoc, List.singleton_append]

theorem Reads.array (read : ReadsItems items text) : Reads (.array items) ('[' :: text ++ [']']) := by
  intro rest frames closable _
  rw [List.cons_append, List.cons_append, List.append_assoc, List.singleton_append, tokensFrom_mark rfl,
    readTokens_openArray, read, List.reverse_nil, List.nil_append]

theorem Reads.emptyArray : Reads (.array []) ['[', ']'] := by
  intro rest frames closable _
  rw [List.cons_append, List.singleton_append, tokensFrom_mark rfl, readTokens_openArray, tokensFrom_mark rfl,
    readTokens_emptyArray]

theorem Reads.object (read : ReadsMembers members text) :
    Reads (.object members) ('\x7b' :: text ++ ['\x7d']) := by
  intro rest frames closable _
  rw [List.cons_append, List.cons_append, List.append_assoc, List.singleton_append, tokensFrom_mark rfl,
    readTokens_openObject, read, List.reverse_nil, List.nil_append]

theorem Reads.emptyObject : Reads (.object []) ['\x7b', '\x7d'] := by
  intro rest frames closable _
  rw [List.cons_append, List.singleton_append, tokensFrom_mark rfl, readTokens_openObject, tokensFrom_mark rfl,
    readTokens_emptyObject]

/-! ## Texts without blanks -/

theorem ReadsItems.compact (nonempty : items ≠ []) (each : ∀ item ∈ items, Reads item item.compact.toList) :
    ReadsItems items (compactItems items).toList := by
  induction items with
  | nil => exact absurd rfl nonempty
  | cons item rest ih =>
    obtain ⟨first, others⟩ := List.forall_mem_cons.mp each
    cases rest with
    | nil => exact .last first
    | cons next rest =>
      rw [compactItems, String.toList_append, String.toList_append, List.append_assoc]
      · exact .cons first (ih (by simp) others)
      · simp

theorem ReadsMembers.compact (nonempty : members ≠ [])
    (each : ∀ member ∈ members, Reads member.2 member.2.compact.toList) :
    ReadsMembers members (compactMembers members).toList := by
  induction members with
  | nil => exact absurd rfl nonempty
  | cons member rest ih =>
    obtain ⟨name, member⟩ := member
    obtain ⟨first, others⟩ := List.forall_mem_cons.mp each
    cases rest with
    | nil =>
      rw [compactMembers, String.toList_append, String.toList_append, List.append_assoc]
      exact .last first
    | cons next rest =>
      rw [compactMembers]
      · have read : ReadsMembers ((name, member) :: next :: rest) _ := .cons first (ih (by simp) others)
        simp only [String.toList_append, List.append_assoc, List.cons_append] at read ⊢
        exact read
      · simp

/-- A legible document is read from its text without blanks, in front of anything that can follow it. -/
theorem Legible.reads_compact (legible : Legible json) : Reads json json.compact.toList := by
  -- what is open around the text is arbitrary in `Reads`, so that it can be the array or the object itself
  induction legible with
  | null => exact .of_literal fun rest ends => tokensFrom_of_begin_word rfl rfl ends
  | bool value => cases value <;> exact .of_literal fun rest ends => tokensFrom_of_begin_word rfl rfl ends
  | int value => exact .number (numberToken_toString value)
  | real back => exact .number back
  | string value => exact .string value
  | @array items _ each =>
    rw [compact, String.toList_append, String.toList_append]
    cases items with
    | nil => exact .emptyArray
    | cons item rest => exact .array (.compact (by simp) each)
  | @object members _ each =>
    rw [compact, String.toList_append, String.toList_append]
    cases members with
    | nil => exact .emptyObject
    | cons member rest => exact .object (.compact (by simp) each)

/-- A legible document is what its text is parsed as. -/
theorem parse?_compact (legible : Legible json) : parse? json.compact = some json := by
  have read := legible.reads_compact [] [] false ends_nil
  rw [List.append_nil] at read
  rw [parse?, read?, tokens, read]
  rfl

/-- A natural number is read back from what it is written as. -/
theorem natBelow?_ofNat {n bound : Nat} (small : n < bound) : (Json.ofNat n).natBelow? bound = some n := by
  rw [Json.ofNat, natBelow?, Int.toNat_natCast, if_pos ⟨Int.natCast_nonneg n, small⟩]

end CallWeave.Json
