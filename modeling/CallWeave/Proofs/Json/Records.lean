import CallWeave.Json.Record

/-!
# What stands for the fields of a record

A record may be an object, in which a name stands once at most, or an array of its fields in order. `Json.Stands` and
`Json.Pair` say so without a search, and `Json.Maybe` what a field holds that may be left out or null. The readers of
records agree with them (`Json.fields?_eq_some_iff`, `Json.optional?_eq_some_iff`).
-/

namespace CallWeave.Json

variable {members : List (String × Json)} {name first second : String} {json : Json} {found one other : Option Json}

/-! ## Names among members -/

/-- What stands for a name among some members, no two of which bear it. -/
inductive Stands (members : List (String × Json)) (name : String) : Option Json → Prop
  | absent (missing : ∀ member ∈ members, member.1 ≠ name) : Stands members name none
  | once {before after : List (String × Json)} {json : Json} (parted : members = before ++ (name, json) :: after)
    (alone : ∀ member ∈ before ++ after, member.1 ≠ name) : Stands members name (some json)

theorem filter_name_eq_nil_iff : members.filter (·.1 == name) = [] ↔ ∀ member ∈ members, member.1 ≠ name := by
  simp [List.filter_eq_nil_iff]

/-- One member alone bears a name exactly if it stands between others that do not. -/
theorem filter_name_eq_singleton_iff :
    members.filter (·.1 == name) = [(name, json)] ↔
      ∃ before after, members = before ++ (name, json) :: after ∧ ∀ member ∈ before ++ after, member.1 ≠ name := by
  constructor
  · intro filtered
    obtain ⟨before, after, rfl, noneBefore, isNamed, noneAfter⟩ := List.filter_eq_cons_iff.mp filtered
    refine ⟨before, after, rfl, List.forall_mem_append.mpr ⟨by simpa using noneBefore, ?_⟩⟩
    exact filter_name_eq_nil_iff.mp noneAfter
  · rintro ⟨before, after, rfl, alone⟩
    obtain ⟨noneBefore, noneAfter⟩ := List.forall_mem_append.mp alone
    rw [List.filter_append, filter_name_eq_nil_iff.mpr noneBefore, List.filter_cons_of_pos (by simp),
      filter_name_eq_nil_iff.mpr noneAfter, List.nil_append]

theorem field?_eq_some_iff : field? members name = some found ↔ Stands members name found := by
  rw [field?]
  constructor
  · intro read
    split at read
    case h_1 none =>
      obtain rfl := Option.some.inj read
      exact .absent (filter_name_eq_nil_iff.mp none)
    case h_2 other json filtered =>
      obtain rfl := Option.some.inj read
      have isIn : (other, json) ∈ members.filter (·.1 == name) := by simp [filtered]
      obtain rfl : other = name := by simpa using (List.mem_filter.mp isIn).2
      obtain ⟨before, after, parted, alone⟩ := filter_name_eq_singleton_iff.mp filtered
      exact .once parted alone
    case h_3 => cases read
  · intro stands
    cases stands with
    | absent missing => rw [filter_name_eq_nil_iff.mpr missing]
    | once parted alone => rw [filter_name_eq_singleton_iff.mpr ⟨_, _, parted, alone⟩]

/-! ## Fields -/

/-- What stands for the two fields of a record: for their names in an object, or in order in an array that holds no
more. -/
inductive Pair (first second : String) : Json → Option Json → Option Json → Prop
  | object {members : List (String × Json)} {one other : Option Json} (isFirst : Stands members first one)
    (isSecond : Stands members second other) : Pair first second (.object members) one other
  | none : Pair first second (.array []) none none
  | one {json : Json} : Pair first second (.array [json]) (some json) none
  | both {json json' : Json} : Pair first second (.array [json, json']) (some json) (some json')

theorem fields?_eq_some_iff :
    fields? [first, second] json = some [one, other] ↔ Pair first second json one other := by
  constructor
  · intro read
    cases json with
    | object members =>
      rw [fields?, List.mapM_cons, List.mapM_cons, List.mapM_nil] at read
      cases isFirst : field? members first with
      | none => simp [isFirst] at read
      | some one' =>
        cases isSecond : field? members second with
        | none => simp [isFirst, isSecond] at read
        | some other' =>
          obtain ⟨rfl, rfl⟩ : one' = one ∧ other' = other := by simpa [isFirst, isSecond] using read
          exact .object (field?_eq_some_iff.mp isFirst) (field?_eq_some_iff.mp isSecond)
    | array items =>
      rcases items with _ | ⟨a, _ | ⟨b, _ | ⟨c, rest⟩⟩⟩ <;> simp [fields?, placed?] at read <;>
        obtain ⟨rfl, rfl⟩ := read
      · exact .none
      · exact .one
      · exact .both
    | _ => simp [fields?] at read
  · rintro (⟨isFirst, isSecond⟩ | _ | _ | _)
    · rw [fields?, List.mapM_cons, List.mapM_cons, List.mapM_nil, field?_eq_some_iff.mpr isFirst,
        field?_eq_some_iff.mpr isSecond]
      rfl
    all_goals rfl

/-- What a field stands for that may be left out or null. -/
inductive Maybe {α : Type} (Written : Json → α → Prop) : Option Json → Option α → Prop
  | absent : Maybe Written none none
  | null : Maybe Written (some .null) none
  | there {json : Json} {a : α} (notNull : json ≠ .null) (written : Written json a) : Maybe Written (some json) (some a)

theorem optional?_eq_some_iff {α : Type} {read? : Json → Option α} {Written : Json → α → Prop}
    (reads : ∀ json a, read? json = some a ↔ Written json a) {value : Option α} :
    optional? read? found = some value ↔ Maybe Written found value := by
  constructor
  · intro read
    rw [optional?.eq_def] at read
    split at read
    case h_1 =>
      obtain rfl := Option.some.inj read
      exact .absent
    case h_2 =>
      obtain rfl := Option.some.inj read
      exact .null
    case h_3 json notNull =>
      obtain ⟨a, isRead, rfl⟩ := Option.map_eq_some_iff.mp read
      exact .there notNull ((reads json a).mp isRead)
  · rintro (_ | _ | ⟨notNull, written⟩)
    · rfl
    · rfl
    · rw [optional?, (reads _ _).mpr written]
      · rfl
      · exact notNull

end CallWeave.Json
