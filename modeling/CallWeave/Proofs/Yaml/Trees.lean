import CallWeave.Proofs.Codec.InstructionLists
import CallWeave.Proofs.Json.Values
import CallWeave.Yaml.Value

/-!
# Trees of data

What a node stands for as a value tells what the node is: a scalar whose text is that of the value if this is a text,
a sequence of the values of its items, a mapping of the values of its names and members. A JSON document is such a
value (`Value.ofJson`), and the value becomes that document again (`Value.json?_ofJson`).
-/

namespace CallWeave.Yaml

variable {document : Document} {depth : Nat} {node : Node Nat} {text : String} {atom : Atom} {plain : Bool}

/-! ## Scalars -/

/-- What a scalar of a text may stand for, quoted or plain. -/
inductive StandsFor (text : String) : (plain : Bool) → Atom → Prop
  | quoted : StandsFor text false (.text text)
  | null (isNothing : (text.isEmpty || isNullText text) = true) : StandsFor text true .null
  | bool {b : Bool} (isThere : (text.isEmpty || isNullText text) = false) (truth : boolOf? text = some b) :
    StandsFor text true (.bool b)
  | natural (n : Nat) : StandsFor text true (.natural n)
  | negative (n : Nat) : StandsFor text true (.negative n)
  | real (x : Float) : StandsFor text true (.real x)
  | text (isThere : (text.isEmpty || isNullText text) = false) : StandsFor text true (.text text)

/-- What reads as an integer is a number. -/
theorem standsFor_of_integerOf? {digits : List Char} (read : integerOf? digits = some atom) :
    StandsFor text true atom := by
  have bounded {digits : List Char} (read : integerOf?.bounded digits = some atom) : StandsFor text true atom := by
    rw [integerOf?.bounded] at read
    split at read
    · exact Option.some.inj (Option.ite_none_right_eq_some.mp read).2 ▸ .natural _
    · cases read
  rw [integerOf?.eq_def] at read
  split at read
  · split at read
    · exact Option.some.inj (Option.ite_none_right_eq_some.mp read).2 ▸ .negative _
    · cases read
  · exact bounded read
  · exact bounded read

theorem standsFor_of_scalarAtom (isAtom : scalarAtom text plain = atom) : StandsFor text plain atom := by
  subst isAtom
  cases plain with
  | false => exact .quoted
  | true =>
    rw [scalarAtom, if_pos rfl, atomOf.eq_def]
    split
    case isTrue isNothing => exact .null isNothing
    case isFalse isSome =>
      have isThere := eq_false_of_ne_true isSome
      split
      case h_1 truth => exact .bool isThere truth
      case h_2 =>
        split
        case h_1 read => exact standsFor_of_integerOf? read
        case h_2 =>
          split
          · exact .text isThere
          · split
            · exact .real _
            · exact .text isThere

/-! ## Values of nodes -/

/-- What a node is that stands for a value: a scalar for an atom, a sequence for a list and a mapping for a map, whose
parts stand for those of the value one level below. -/
inductive Holding (document : Document) : (depth : Nat) → Node Nat → Value → Prop
  | scalar {depth : Nat} {node : Node Nat} {anchor : Option String} {text : String} {plain : Bool} {atom : Atom}
    (isScalar : document.resolve node = .scalar anchor text plain) (isAtom : scalarAtom text plain = atom) :
    Holding document depth node (.atom atom)
  | sequence {depth below : Nat} {node : Node Nat} {anchor : Option String} {items : List (Node Nat)}
    {values : List Value} (isDeep : depth = below + 1) (isSequence : document.resolve node = .sequence anchor items)
    (each : List.Forall₂ (fun item value => document.value? below item = some value) items values) :
    Holding document depth node (.list values)
  | mapping {depth below : Nat} {node : Node Nat} {anchor : Option String} {pairs : List (Node Nat × Node Nat)}
    {values : List (Value × Value)} (isDeep : depth = below + 1)
    (isMapping : document.resolve node = .mapping anchor pairs)
    (each : List.Forall₂ (fun pair value => document.value? below pair.1 = some value.1 ∧
      document.value? below pair.2 = some value.2) pairs values) :
    Holding document depth node (.map values)

theorem holding_of_value? {value : Value} (read : document.value? depth node = some value) :
    Holding document depth node value := by
  have scalar {anchor : Option String} {text : String} {plain : Bool}
      (isScalar : document.resolve node = .scalar anchor text plain)
      (read : (if (scalarAtom text plain).isSmall then some (Value.atom (scalarAtom text plain)) else none) =
        some value) : Holding document depth node value := by
    obtain rfl := Option.some.inj (Option.ite_none_right_eq_some.mp read).2
    exact .scalar isScalar rfl
  cases depth with
  | zero =>
    rw [Document.value?] at read
    split at read
    case h_1 isScalar => exact scalar isScalar read
    case h_2 => cases read
  | succ below =>
    rw [Document.value?] at read
    split at read
    case h_1 isScalar => exact scalar isScalar read
    case h_2 isSequence =>
      obtain ⟨_, each, rfl⟩ := Option.map_eq_some_iff.mp read
      exact .sequence rfl isSequence (mapM_eq_some_iff.mp each)
    case h_3 isMapping =>
      obtain ⟨_, each, rfl⟩ := Option.map_eq_some_iff.mp read
      refine .mapping rfl isMapping ((mapM_eq_some_iff.mp each).imp fun pair value read => ?_)
      obtain ⟨key, member⟩ := pair
      simp only at read ⊢
      split at read
      case h_1 isKey isMember =>
        obtain rfl := Option.some.inj read
        exact ⟨isKey, isMember⟩
      case h_2 => cases read
    case h_4 => cases read

/-! ## Documents as values -/

mutual

/-- A JSON document as a value. What is unreadable stands for nothing. -/
def Value.ofJson : Json → Value
  | .null | .unreadable => .atom .null
  | .bool b => .atom (.bool b)
  | .int i => .atom (if 0 ≤ i then .natural i.toNat else .negative i.natAbs)
  | .real x => .atom (.real x)
  | .string s => .atom (.text s)
  | .array items => .list (Value.ofItems items)
  | .object members => .map (Value.ofMembers members)

/-- Items as values. -/
def Value.ofItems : List Json → List Value
  | [] => []
  | item :: rest => Value.ofJson item :: Value.ofItems rest

/-- Members as pairs of values. -/
def Value.ofMembers : List (String × Json) → List (Value × Value)
  | [] => []
  | (name, member) :: rest => (.atom (.text name), Value.ofJson member) :: Value.ofMembers rest

end

theorem Value.ofItems_eq_map (items : List Json) : ofItems items = items.map ofJson := by
  induction items with
  | nil => rfl
  | cons item rest ih => rw [ofItems, List.map_cons, ih]

theorem Value.ofMembers_eq_map (members : List (String × Json)) :
    ofMembers members = members.map fun member => (.atom (.text member.1), ofJson member.2) := by
  induction members with
  | nil => rfl
  | cons member rest ih => rw [ofMembers, List.map_cons, ih]

theorem Value.jsonItems?_ofItems {items : List Json} (each : ∀ item ∈ items, (ofJson item).json? = some item) :
    jsonItems? (ofItems items) = some items := by
  induction items with
  | nil => rfl
  | cons item rest ih =>
    obtain ⟨first, others⟩ := List.forall_mem_cons.mp each
    rw [ofItems, jsonItems?, first, ih others]

theorem Value.jsonPairs?_ofMembers {members : List (String × Json)}
    (each : ∀ member ∈ members, (ofJson member.2).json? = some member.2) :
    jsonPairs? (ofMembers members) = some members := by
  induction members with
  | nil => rfl
  | cons member rest ih =>
    obtain ⟨first, others⟩ := List.forall_mem_cons.mp each
    rw [ofMembers, jsonPairs?, first, ih others]

/-- A value in normal form is that of its own tree, as long as all its floats are finite. -/
theorem Value.json?_ofJson {json : Json} (isValue : json.IsValue)
    (finite : ∀ x, Json.Holds x json → x.isFinite = true) : (ofJson json).json? = some json := by
  induction isValue with
  | null | bool | string => rfl
  | @int i _ =>
    rw [ofJson, json?]
    split_ifs with isNatural
    · rw [Atom.toJson, Int.toNat_of_nonneg isNatural]
    · rw [Atom.toJson, Int.ofNat_natAbs_of_nonpos (by omega), neg_neg]
  | real x => rw [ofJson, json?, Atom.toJson, if_pos (finite x .here)]
  | @array items _ each =>
    rw [ofJson, json?, jsonItems?_ofItems fun item isIn => each item isIn fun x holds => finite x (.item isIn holds)]
    rfl
  | @object members inOrder _ each =>
    rw [ofJson, json?, jsonPairs?_ofMembers fun member isIn => each member isIn fun x holds =>
      finite x (.member isIn holds)]
    rw [Option.map_some, inOrder.sortMembers_eq]

end CallWeave.Yaml
