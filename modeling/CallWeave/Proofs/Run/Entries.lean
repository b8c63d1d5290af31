import CallWeave.Run.Data
import CallWeave.Proofs.Json.Values

/-!
# Run data read back from its text

Run data that begins with a text or with a finite tolerance keeps its entries sorted, as values, and free of one
name: that of the tolerance, which stands in the same object. As long as no entry is inserted under that name, the
text of the run data is read back as the same run data, unless an entry nests deeper than a text may
(`RunData.text_reads_back`).
-/

namespace CallWeave.RunData

open Json (Sorted ReadsBack Legible Holds)

variable {data : RunData} {name k : String} {value : Json} {entries : List (String × Json)}

/-- What run data begins with: a text that it is read from, or a finite tolerance alone. -/
inductive Begins : RunData → Prop
  | ofText {text : String} {data : RunData} (read : parse? text = some data) : Begins data
  | withSlippage {percent : Float} (finite : percent.isFinite = true) : Begins (withSlippage percent)

/-- Adds entries one after another. -/
def insertAll (data : RunData) (entries : List (String × Json)) : RunData :=
  entries.foldl (fun data entry => data.insert entry.1 entry.2) data

/-! ## What run data keeps -/

/-- Entries are values, sorted by name. -/
structure WellKept (data : RunData) : Prop where
  inOrder : Sorted data.extra
  values : ∀ entry ∈ data.extra, entry.2.IsValue

/-- No entry has the tolerance's name. -/
def Apart (data : RunData) : Prop := ∀ entry ∈ data.extra, entry.1 ≠ "slippage"

theorem WellKept.insert (kept : data.WellKept) (isValue : value.IsValue) : (data.insert name value).WellKept where
  inOrder := kept.inOrder.insertMember
  values := fun entry isIn => by
    obtain rfl | isIn := Json.eq_or_mem_of_mem_insertMember isIn
    · exact isValue
    · exact kept.values entry isIn

theorem Apart.insert (apart : data.Apart) (other : name ≠ "slippage") : (data.insert name value).Apart := by
  intro entry isIn
  obtain rfl | isIn := Json.eq_or_mem_of_mem_insertMember isIn
  · exact other
  · exact apart entry isIn

theorem WellKept.insertAll (kept : data.WellKept) (values : ∀ entry ∈ entries, entry.2.IsValue) :
    (data.insertAll entries).WellKept := by
  induction entries generalizing data with
  | nil => exact kept
  | cons entry rest ih =>
    obtain ⟨first, others⟩ := List.forall_mem_cons.mp values
    exact ih (kept.insert first) others

theorem Apart.insertAll (apart : data.Apart) (others : ∀ entry ∈ entries, entry.1 ≠ "slippage") :
    (data.insertAll entries).Apart := by
  induction entries generalizing data with
  | nil => exact apart
  | cons entry rest ih =>
    obtain ⟨first, others⟩ := List.forall_mem_cons.mp others
    exact ih (apart.insert first) others

/-- Run data that is read keeps what was read apart. -/
theorem wellKept_of_ofJson? {json : Json} (read : ofJson? json = some data) : data.WellKept ∧ data.Apart := by
  rw [ofJson?.eq_def] at read
  split at read
  case h_1 slippage members _ found =>
    obtain ⟨percent, -, rfl⟩ := Option.map_eq_some_iff.mp read
    cases Json.isValue_of_valueAt? json 128 found with
    | object inOrder each =>
      exact ⟨⟨inOrder.filter _, fun entry isIn => each entry (List.mem_of_mem_filter isIn)⟩,
        fun entry isIn => by simpa using List.of_mem_filter isIn⟩
  case h_2 => cases read

theorem Begins.wellKept (begins : data.Begins) : data.WellKept ∧ data.Apart := by
  cases begins with
  | ofText read =>
    obtain ⟨json, -, read⟩ := Option.bind_eq_some_iff.mp read
    exact wellKept_of_ofJson? read
  | withSlippage => exact ⟨⟨List.Pairwise.nil, List.forall_mem_nil _⟩, List.forall_mem_nil _⟩

/-! ## Reading back -/

/-- The tolerance as it stands in front of the entries. -/
def tolerance (data : RunData) : List (String × Json) :=
  match data.slippage with
  | some percent => [("slippage", .real percent)]
  | none => []

theorem toJson_eq (data : RunData) : data.toJson = .object (data.tolerance ++ data.extra) := rfl

theorem mem_tolerance {member : String × Json} :
    member ∈ data.tolerance ↔ ∃ percent, data.slippage = some percent ∧ member = ("slippage", .real percent) := by
  rw [tolerance]
  split
  case h_1 percent same => simp [same]
  case h_2 same => simp [same]

/-- The members of the document are all values. -/
theorem WellKept.isValue (kept : data.WellKept) : ∀ member ∈ data.tolerance ++ data.extra, member.2.IsValue := by
  refine List.forall_mem_append.mpr ⟨fun member isIn => ?_, kept.values⟩
  obtain ⟨percent, -, rfl⟩ := mem_tolerance.mp isIn
  exact .real percent

theorem WellKept.legible (kept : data.WellKept) (back : ∀ x, Holds x data.toJson → ReadsBack x) :
    Legible data.toJson :=
  .object fun member isIn => (kept.isValue member isIn).legible fun x holds => back x (.member isIn holds)

theorem parse?_compact (legible : Legible data.toJson) : parse? data.toJson.compact = ofJson? data.toJson := by
  rw [parse?, Json.parse?_compact legible, Option.bind_some]

/-- The document of run data has a value as long as no entry nests deeper than a text may. -/
theorem WellKept.value?_toJson (kept : data.WellKept) :
    data.toJson.value? = if ∀ entry ∈ data.extra, entry.2.levels ≤ 126
      then some (.object (Json.sortMembers (data.tolerance ++ data.extra))) else none := by
  -- of the 127 levels that a text may have, one is the object's own
  have levels : Json.membersLevels (data.tolerance ++ data.extra) ≤ 126 ↔
      ∀ entry ∈ data.extra, entry.2.levels ≤ 126 := by
    rw [Json.membersLevels_le_iff, List.forall_mem_append, and_iff_right]
    intro member isIn
    obtain ⟨percent, -, rfl⟩ := mem_tolerance.mp isIn
    exact Nat.zero_le _
  rw [Json.value?, toJson_eq, Json.valueAt?, if_neg (by decide),
    Json.membersAt?_eq fun member isIn => (kept.isValue member isIn).valueAt?_eq 126, apply_ite (Option.map _)]
  exact if_congr levels rfl rfl

/-- Whatever stands beside the tolerance is what was sorted before. -/
theorem WellKept.filter_sortMembers (kept : data.WellKept) (apart : data.Apart) :
    (Json.sortMembers (data.tolerance ++ data.extra)).filter (·.1 ≠ "slippage") = data.extra := by
  have noOther : (Json.insertAll [] data.tolerance).filter (·.1 ≠ "slippage") = [] := by
    rw [List.filter_eq_nil_iff]
    intro member isIn
    obtain isIn | isIn := Json.mem_of_mem_insertAll isIn
    · cases isIn
    · obtain ⟨percent, -, rfl⟩ := mem_tolerance.mp isIn
      simp
  rw [Json.sortMembers_eq_insertAll, Json.insertAll_append,
    (Sorted.insertAll List.Pairwise.nil data.tolerance).filter_insertAll apart, noOther]
  exact kept.inOrder.sortMembers_eq

/-- The tolerance is named at most once. -/
theorem Apart.field? (apart : data.Apart) :
    Json.field? (data.tolerance ++ data.extra) "slippage" = some (data.slippage.map .real) := by
  have none : data.extra.filter (·.1 == "slippage") = [] :=
    List.filter_eq_nil_iff.mpr fun entry isIn => by simpa using apart entry isIn
  rw [Json.field?, List.filter_append, none, List.append_nil, tolerance]
  cases data.slippage <;> rfl

/-- Run data that keeps the tolerance's name free is read back from its document. -/
theorem WellKept.ofJson?_toJson (kept : data.WellKept) (apart : data.Apart) :
    ofJson? data.toJson = if ∀ entry ∈ data.extra, entry.2.levels ≤ 126 then some data else none := by
  have named : Json.namedFields? ["slippage"] data.toJson = some [data.slippage.map .real] := by
    rw [toJson_eq, Json.namedFields?, List.mapM_cons, apart.field?]
    rfl
  have percent : Json.optional? Json.float? (data.slippage.map .real) = some data.slippage := by
    cases data.slippage <;> rfl
  rw [ofJson?, named, kept.value?_toJson]
  split_ifs
  · simp only [percent, kept.filter_sortMembers apart, Option.map_some]
  · rfl

/-- With an entry of its name the tolerance is named twice, and the document is refused. -/
theorem ofJson?_toJson_of_twice {percent : Float} (isSome : data.slippage = some percent)
    (twice : ∃ entry ∈ data.extra, entry.1 = "slippage") : ofJson? data.toJson = none := by
  obtain ⟨entry, isIn, isNamed⟩ := twice
  have refused : Json.field? (data.tolerance ++ data.extra) "slippage" = none := by
    have isFiltered : entry ∈ data.extra.filter (·.1 == "slippage") :=
      List.mem_filter.mpr ⟨isIn, by simpa using isNamed⟩
    obtain ⟨first, rest, named⟩ := List.exists_cons_of_ne_nil (List.ne_nil_of_mem isFiltered)
    rw [Json.field?, List.filter_append, named, tolerance, isSome]
    rfl
  have unnamed : Json.namedFields? ["slippage"] data.toJson = none := by
    rw [toJson_eq, Json.namedFields?, List.mapM_cons, refused]
    rfl
  rw [ofJson?, unnamed]

/-- Run data that begins with a text or with a finite tolerance, with entries inserted under any names but the
tolerance's, is read back from its text as it is. Only where an entry nests deeper than a text may, nothing is
read. -/
theorem text_reads_back (begins : data.Begins) (values : ∀ entry ∈ entries, entry.2.IsValue)
    (others : ∀ entry ∈ entries, entry.1 ≠ "slippage")
    (back : ∀ x, Holds x (data.insertAll entries).toJson → ReadsBack x) :
    parse? (data.insertAll entries).toJson.compact =
      if ∀ entry ∈ (data.insertAll entries).extra, entry.2.levels ≤ 126 then some (data.insertAll entries)
      else none := by
  obtain ⟨kept, apart⟩ := begins.wellKept
  replace kept := kept.insertAll values
  rw [parse?_compact (kept.legible back), kept.ofJson?_toJson (apart.insertAll others)]

/-- Run data with a permit and a list of limits. -/
theorem permit_reads_back :
    parse? ((withSlippage 0.5).insertAll
        [("permit", .string "0xabc"), ("limits", .array [.real 0.1, .int 7])]).toJson.compact =
      some ⟨some 0.5, [("limits", .array [.real 0.1, .int 7]), ("permit", .string "0xabc")]⟩ := by
  have limits : (Json.array [.real 0.1, .int 7]).IsValue :=
    .array (by simpa using ⟨.real 0.1, .int (by decide)⟩)
  refine (text_reads_back (.withSlippage (by decide +kernel)) ?values (by decide) ?back).trans (if_pos (by decide))
  case values => simpa using ⟨.string "0xabc", limits⟩
  case back =>
    change ∀ x, Holds x (.object [("slippage", .real 0.5), ("limits", .array [.real 0.1, .int 7]),
      ("permit", .string "0xabc")]) → ReadsBack x
    have back : ReadsBack 0.5 ∧ ReadsBack 0.1 := by decide +kernel
    simpa using back

/-- Null with some arrays around it. -/
def nested : Nat → Json
  | 0 => .null
  | n + 1 => .array [nested n]

theorem isValue_nested (n : Nat) : (nested n).IsValue := by
  induction n with
  | zero => exact .null
  | succ n ih => exact .array (by simpa using ih)

theorem levels_nested (n : Nat) : (nested n).levels = n := by
  induction n with
  | zero => rfl
  | succ n ih => simp [nested, Json.levels, Json.itemsLevels, ih]

theorem not_holds_nested (n : Nat) (x : Float) : ¬Holds x (nested n) := by
  induction n with
  | zero => exact Json.not_holds_null
  | succ n ih => simpa [nested] using ih

/-- Two run data whose texts are not read at all: one with an entry under the tolerance's name, and one with an
entry that nests deeper than a text may. -/
theorem unread_of_twice_or_nested :
    (withSlippage 0.5).Begins ∧
      (Json.string "x").IsValue ∧
      (∀ x, Holds x ((withSlippage 0.5).insertAll [("slippage", .string "x")]).toJson → ReadsBack x) ∧
      parse? ((withSlippage 0.5).insertAll [("slippage", .string "x")]).toJson.compact = none ∧
      (nested 127).IsValue ∧
      (∀ x, Holds x ((withSlippage 0.5).insertAll [("path", nested 127)]).toJson → ReadsBack x) ∧
      parse? ((withSlippage 0.5).insertAll [("path", nested 127)]).toJson.compact = none := by
  have begins : (withSlippage 0.5).Begins := .withSlippage (by decide +kernel)
  have back : ReadsBack 0.5 := by decide +kernel
  have twiceBack : ∀ x, Holds x ((withSlippage 0.5).insertAll [("slippage", .string "x")]).toJson → ReadsBack x := by
    change ∀ x, Holds x (.object [("slippage", .real 0.5), ("slippage", .string "x")]) → ReadsBack x
    simpa using back
  have deepBack : ∀ x, Holds x ((withSlippage 0.5).insertAll [("path", nested 127)]).toJson → ReadsBack x := by
    change ∀ x, Holds x (.object [("slippage", .real 0.5), ("path", nested 127)]) → ReadsBack x
    simpa [not_holds_nested] using back
  have twiceKept : ((withSlippage 0.5).insertAll [("slippage", .string "x")]).WellKept :=
    begins.wellKept.1.insertAll (by simpa using .string "x")
  have deepKept : ((withSlippage 0.5).insertAll [("path", nested 127)]).WellKept :=
    begins.wellKept.1.insertAll (by simpa using isValue_nested 127)
  refine ⟨begins, .string "x", twiceBack, ?twice, isValue_nested 127, deepBack, ?deep⟩
  case twice =>
    rw [parse?_compact (twiceKept.legible twiceBack)]
    exact ofJson?_toJson_of_twice rfl ⟨_, List.mem_cons_self, rfl⟩
  case deep =>
    rw [parse?_compact (deepKept.legible deepBack),
      deepKept.ofJson?_toJson (begins.wellKept.2.insertAll (by simp))]
    refine if_neg fun shallow => ?_
    have shallow : (nested 127).levels ≤ 126 := shallow ("path", nested 127) List.mem_cons_self
    rw [levels_nested] at shallow
    omega

end CallWeave.RunData
