import CallWeave.Proofs.Json.RoundTrip
import Mathlib.Data.String.Basic

/-!
# Values

A value is a document in normal form (`Json.IsValue`). The value of a document is one, and a value is its own value:
nothing about it changes but that it has to nest few enough levels deep (`IsValue.valueAt?_eq`). Members of a value
are sorted by name, and sorting leaves sorted members as they are.
-/

namespace CallWeave.Json

variable {json v value : Json} {items : List Json} {members sorted : List (String × Json)} {name k : String}
variable {depth : Nat}

/-! ## Sorted members -/

/-- Members sorted by name, no two of one name. -/
abbrev Sorted (members : List (String × Json)) : Prop := members.Pairwise (·.1 < ·.1)

theorem insertMember_of_forall_lt (below : ∀ member ∈ members, name < member.1) :
    insertMember name value members = (name, value) :: members := by
  cases members with
  | nil => rfl
  | cons member rest => exact if_pos (below member List.mem_cons_self)

theorem insertMember_of_forall_gt (above : ∀ member ∈ members, member.1 < name) :
    insertMember name value members = members ++ [(name, value)] := by
  induction members with
  | nil => rfl
  | cons member rest ih =>
    obtain ⟨less, above⟩ := List.forall_mem_cons.mp above
    rw [insertMember, if_neg (lt_asymm less), if_neg less.ne', ih above, List.cons_append]

/-- What stands among the members after one has been put in. -/
theorem eq_or_mem_of_mem_insertMember {member : String × Json} (isIn : member ∈ insertMember name value members) :
    member = (name, value) ∨ member ∈ members := by
  induction members with
  | nil => exact .inl (List.mem_singleton.mp isIn)
  | cons first rest ih =>
    rw [insertMember] at isIn
    split_ifs at isIn
    · exact List.mem_cons.mp isIn
    · exact (List.mem_cons.mp isIn).imp_right (List.mem_cons_of_mem _)
    · obtain rfl | isIn := List.mem_cons.mp isIn
      · exact .inr List.mem_cons_self
      · exact (ih isIn).imp_right (List.mem_cons_of_mem _)

theorem Sorted.insertMember (inOrder : Sorted members) : Sorted (insertMember name value members) := by
  induction members with
  | nil => exact List.pairwise_singleton _ _
  | cons first rest ih =>
    obtain ⟨below, restInOrder⟩ := List.pairwise_cons.mp inOrder
    rw [Json.insertMember]
    split_ifs with less same
    · refine List.pairwise_cons.mpr ⟨List.forall_mem_cons.mpr ⟨less, fun member isIn => ?_⟩, inOrder⟩
      exact less.trans (below member isIn)
    · exact List.pairwise_cons.mpr ⟨same ▸ below, restInOrder⟩
    · refine List.pairwise_cons.mpr ⟨fun member isIn => ?_, ih restInOrder⟩
      obtain rfl | isIn := eq_or_mem_of_mem_insertMember isIn
      · exact lt_of_le_of_ne (not_lt.mp less) (Ne.symm same)
      · exact below member isIn

/-- Members of other names are left out before or after one is put in. -/
theorem Sorted.filter_insertMember (inOrder : Sorted members) (other : name ≠ k) :
    (Json.insertMember name value members).filter (·.1 ≠ k) =
      Json.insertMember name value (members.filter (·.1 ≠ k)) := by
  induction members with
  | nil => simp [Json.insertMember, other]
  | cons first rest ih =>
    obtain ⟨below, restInOrder⟩ := List.pairwise_cons.mp inOrder
    rw [Json.insertMember]
    split_ifs with less same
    · have above : ∀ member ∈ first :: rest, name < member.1 :=
        List.forall_mem_cons.mpr ⟨less, fun member isIn => less.trans (below member isIn)⟩
      rw [List.filter_cons_of_pos (by simpa using other),
        insertMember_of_forall_lt fun member isIn => above member (List.mem_of_mem_filter isIn)]
    · rw [List.filter_cons_of_pos (by simpa using other), List.filter_cons_of_pos (by simpa [← same] using other),
        Json.insertMember, if_neg less, if_pos same]
    · by_cases skipped : first.1 = k
      · rw [List.filter_cons_of_neg (by simpa using skipped), List.filter_cons_of_neg (by simpa using skipped),
          ih restInOrder]
      · rw [List.filter_cons_of_pos (by simpa using skipped), List.filter_cons_of_pos (by simpa using skipped),
          ih restInOrder, Json.insertMember, if_neg less, if_neg same]

/-- Puts members in one after another. -/
def insertAll (sorted members : List (String × Json)) : List (String × Json) :=
  members.foldl (fun sorted member => insertMember member.1 member.2 sorted) sorted

theorem sortMembers_eq_insertAll (members : List (String × Json)) : sortMembers members = insertAll [] members := rfl

theorem Sorted.insertAll (inOrder : Sorted sorted) (members : List (String × Json)) :
    Sorted (insertAll sorted members) := by
  induction members generalizing sorted with
  | nil => exact inOrder
  | cons member rest ih => exact ih inOrder.insertMember

theorem mem_of_mem_insertAll {member : String × Json} (isIn : member ∈ insertAll sorted members) :
    member ∈ sorted ∨ member ∈ members := by
  induction members generalizing sorted with
  | nil => exact .inl isIn
  | cons first rest ih =>
    rcases ih isIn with isIn | isIn
    · exact (eq_or_mem_of_mem_insertMember isIn).elim (fun same => .inr (same ▸ List.mem_cons_self)) .inl
    · exact .inr (List.mem_cons_of_mem _ isIn)

theorem insertAll_append (sorted members more : List (String × Json)) :
    insertAll sorted (members ++ more) = insertAll (insertAll sorted members) more :=
  List.foldl_append

/-- Members of one name are left out before or after others are put in. -/
theorem Sorted.filter_insertAll (inOrder : Sorted sorted) (others : ∀ member ∈ members, member.1 ≠ k) :
    (Json.insertAll sorted members).filter (·.1 ≠ k) = Json.insertAll (sorted.filter (·.1 ≠ k)) members := by
  induction members generalizing sorted with
  | nil => rfl
  | cons member rest ih =>
    obtain ⟨first, others⟩ := List.forall_mem_cons.mp others
    have stillInOrder : Sorted (Json.insertMember member.1 member.2 sorted) := inOrder.insertMember
    have left := ih stillInOrder others
    rwa [inOrder.filter_insertMember first] at left

/-- Sorted members behind all that are there stay as they are. -/
theorem insertAll_of_sorted (inOrder : Sorted (sorted ++ members)) : insertAll sorted members = sorted ++ members := by
  induction members generalizing sorted with
  | nil => exact (List.append_nil _).symm
  | cons first rest ih =>
    have above : ∀ member ∈ sorted, member.1 < first.1 := fun member isIn =>
      (List.pairwise_append.mp inOrder).2.2 member isIn first List.mem_cons_self
    rw [List.append_cons] at inOrder ⊢
    rw [← ih inOrder, ← insertMember_of_forall_gt above]
    rfl

theorem sorted_sortMembers (members : List (String × Json)) : Sorted (sortMembers members) :=
  Sorted.insertAll List.Pairwise.nil members

theorem mem_of_mem_sortMembers {member : String × Json} (isIn : member ∈ sortMembers members) : member ∈ members :=
  (mem_of_mem_insertAll isIn).resolve_left List.not_mem_nil

theorem Sorted.sortMembers_eq (inOrder : Sorted members) : sortMembers members = members :=
  insertAll_of_sorted inOrder

/-! ## Nesting -/

mutual

/-- How many arrays and objects stand around what is nested deepest. -/
def levels : Json → Nat
  | .array items => itemsLevels items + 1
  | .object members => membersLevels members + 1
  | _ => 0

/-- The greatest number of levels among items. -/
def itemsLevels : List Json → Nat
  | [] => 0
  | item :: rest => max (levels item) (itemsLevels rest)

/-- The greatest number of levels among members. -/
def membersLevels : List (String × Json) → Nat
  | [] => 0
  | (_, member) :: rest => max (levels member) (membersLevels rest)

end

theorem membersLevels_le_iff : membersLevels members ≤ depth ↔ ∀ member ∈ members, member.2.levels ≤ depth := by
  induction members with
  | nil => simp [membersLevels]
  | cons member rest ih => rw [membersLevels, max_le_iff, List.forall_mem_cons, ih]

/-! ## Normal form -/

/-- A document in normal form: integers of 64 bits, sorted members, nothing unreadable. -/
inductive IsValue : Json → Prop
  | null : IsValue .null
  | bool (value : Bool) : IsValue (.bool value)
  | int {value : Int} (fits : fits64 value = true) : IsValue (.int value)
  | real (value : Float) : IsValue (.real value)
  | string (value : String) : IsValue (.string value)
  | array {items : List Json} (each : ∀ item ∈ items, IsValue item) : IsValue (.array items)
  | object {members : List (String × Json)} (inOrder : Sorted members) (each : ∀ member ∈ members, IsValue member.2) :
    IsValue (.object members)

/-- Items that are their own values are read as they are. -/
theorem itemsAt?_eq
    (each : ∀ item ∈ items, item.valueAt? (depth + 1) = if item.levels ≤ depth then some item else none) :
    itemsAt? items (depth + 1) = if itemsLevels items ≤ depth then some items else none := by
  induction items with
  | nil => rfl
  | cons item rest ih =>
    obtain ⟨first, others⟩ := List.forall_mem_cons.mp each
    rw [itemsAt?, itemsLevels, first, ih others]
    by_cases firstFits : item.levels ≤ depth <;> by_cases restFit : itemsLevels rest ≤ depth <;>
      simp [firstFits, restFit]

theorem membersAt?_eq
    (each : ∀ member ∈ members,
      member.2.valueAt? (depth + 1) = if member.2.levels ≤ depth then some member.2 else none) :
    membersAt? members (depth + 1) = if membersLevels members ≤ depth then some members else none := by
  induction members with
  | nil => rfl
  | cons member rest ih =>
    obtain ⟨first, others⟩ := List.forall_mem_cons.mp each
    rw [membersAt?, membersLevels, first, ih others]
    by_cases firstFits : member.2.levels ≤ depth <;> by_cases restFit : membersLevels rest ≤ depth <;>
      simp [firstFits, restFit]

/-- A value is its own value, as long as it nests few enough levels deep. -/
theorem IsValue.valueAt?_eq (isValue : json.IsValue) (depth : Nat) :
    json.valueAt? (depth + 1) = if json.levels ≤ depth then some json else none := by
  -- every level of nesting takes one from the depth, and reading stops where a level finds only one left
  induction isValue generalizing depth with
  | int fits => simp [valueAt?, levels, fits]
  | @array items _ each =>
    cases depth with
    | zero => rfl
    | succ depth =>
      rw [valueAt?, if_neg (by omega), Nat.add_sub_cancel, itemsAt?_eq fun item isIn => each item isIn depth, levels]
      simp [apply_ite (Option.map Json.array)]
  | @object members inOrder _ each =>
    cases depth with
    | zero => rfl
    | succ depth =>
      rw [valueAt?, if_neg (by omega), Nat.add_sub_cancel, membersAt?_eq fun member isIn => each member isIn depth,
        levels]
      simp [apply_ite (Option.map _), inOrder.sortMembers_eq]
  | _ => simp [valueAt?, levels]

mutual

/-- The value of a document is a value. -/
theorem isValue_of_valueAt? : ∀ (json : Json) (depth : Nat) {value : Json},
    json.valueAt? depth = some value → value.IsValue
  | .null, _, _, read => Option.some.inj read ▸ .null
  | .bool b, _, _, read => Option.some.inj read ▸ .bool b
  | .int i, _, _, read => by
    rw [valueAt?] at read
    split at read
    case isTrue fits => exact Option.some.inj read ▸ .int fits
    case isFalse =>
      obtain ⟨x, -, rfl⟩ := Option.map_eq_some_iff.mp read
      exact .real x
  | .real x, _, _, read => Option.some.inj read ▸ .real x
  | .string s, _, _, read => Option.some.inj read ▸ .string s
  | .array items, depth, _, read => by
    rw [valueAt?] at read
    obtain ⟨values, further, rfl⟩ := Option.map_eq_some_iff.mp (Option.ite_none_left_eq_some.mp read).2
    exact .array (isValue_of_itemsAt? items _ further)
  | .object members, depth, _, read => by
    rw [valueAt?] at read
    obtain ⟨values, further, rfl⟩ := Option.map_eq_some_iff.mp (Option.ite_none_left_eq_some.mp read).2
    exact .object (sorted_sortMembers values) fun member isIn =>
      isValue_of_membersAt? members _ further member (mem_of_mem_sortMembers isIn)

theorem isValue_of_itemsAt? : ∀ (items : List Json) (depth : Nat) {values : List Json},
    itemsAt? items depth = some values → ∀ value ∈ values, value.IsValue
  | [], _, _, read => by
    obtain rfl := Option.some.inj read
    exact List.forall_mem_nil _
  | item :: rest, depth, _, read => by
    rw [itemsAt?] at read
    split at read
    case h_1 first further =>
      obtain rfl := Option.some.inj read
      exact List.forall_mem_cons.mpr ⟨isValue_of_valueAt? item depth first, isValue_of_itemsAt? rest depth further⟩
    case h_2 => cases read

theorem isValue_of_membersAt? : ∀ (members : List (String × Json)) (depth : Nat) {values : List (String × Json)},
    membersAt? members depth = some values → ∀ value ∈ values, value.2.IsValue
  | [], _, _, read => by
    obtain rfl := Option.some.inj read
    exact List.forall_mem_nil _
  | (name, member) :: rest, depth, _, read => by
    rw [membersAt?] at read
    split at read
    case h_1 first further =>
      obtain rfl := Option.some.inj read
      exact List.forall_mem_cons.mpr
        ⟨isValue_of_valueAt? member depth first, isValue_of_membersAt? rest depth further⟩
    case h_2 => cases read

end

/-- A value whose floats are read back is legible. -/
theorem IsValue.legible (isValue : json.IsValue) (back : ∀ x, Holds x json → ReadsBack x) : Legible json := by
  induction isValue with
  | null => exact .null
  | bool value => exact .bool value
  | int => exact .int _
  | real value => exact .real (back value .here)
  | string value => exact .string value
  | array _ each => exact .array fun item isIn => each item isIn fun x holds => back x (.item isIn holds)
  | object _ _ each => exact .object fun member isIn => each member isIn fun x holds => back x (.member isIn holds)

end CallWeave.Json
