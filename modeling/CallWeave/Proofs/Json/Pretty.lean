import CallWeave.Proofs.Json.RoundTrip

/-!
# Documents read back from texts over several lines

Line breaks and blanks between tokens are passed over, so a document is read back from its text over several lines as
it is from its text without blanks (`parse?_pretty`): each further line is that of an item or a member behind a comma.
-/

namespace CallWeave.Json

variable {json item member : Json} {items : List Json} {members : List (String × Json)} {name : String}
variable {text more : List Char}

/-! ## Blanks -/

theorem tokensFrom_space (rest : List Char) : tokensFrom (' ' :: rest) .between = tokensFrom rest .between := by
  rw [tokensFrom_of_step (step_of_begin rfl), List.nil_append]

theorem tokensFrom_newline (level : Nat) (rest : List Char) :
    tokensFrom ((newline level).toList ++ rest) .between = tokensFrom rest .between := by
  rw [newline, String.toList_ofList, List.cons_append, tokensFrom_of_step (step_of_begin rfl), List.nil_append]
  generalize 2 * level = width
  induction width with
  | zero => rfl
  | succ width ih => rw [List.replicate_succ, List.cons_append, tokensFrom_space, ih]

theorem ends_newline (level : Nat) (rest : List Char) : Ends ((newline level).toList ++ rest) := by
  rw [newline, String.toList_ofList, List.cons_append]
  exact ends_cons _ ⟨rfl, rfl⟩

/-- What stands on a line of its own is read as what stands on it. -/
theorem Reads.onLine (read : Reads json text) (level : Nat) : Reads json ((newline level).toList ++ text) := by
  intro rest frames closable ends
  rw [List.append_assoc, tokensFrom_newline, read rest frames closable ends]

/-- So is what stands in front of a line break. -/
theorem Reads.beforeLine (read : Reads json text) (level : Nat) : Reads json (text ++ (newline level).toList) := by
  intro rest frames closable _
  rw [List.append_assoc, read _ _ _ (ends_newline level rest), tokensFrom_newline]

theorem Reads.spaced (read : Reads json text) : Reads json (' ' :: text) := by
  intro rest frames closable ends
  rw [List.cons_append, tokensFrom_space, read rest frames closable ends]

theorem ReadsMembers.onLine (read : ReadsMembers members text) (level : Nat) :
    ReadsMembers members ((newline level).toList ++ text) := by
  intro reversed rest frames closable
  rw [List.append_assoc, tokensFrom_newline, read]

/-! ## Texts over several lines -/

/-- The items of an array, the first and all others on lines of their own. -/
theorem ReadsItems.pretty (level outer : Nat)
    (each : ∀ other ∈ item :: items, Reads other (other.prettyAt level).toList) :
    ReadsItems (item :: items) ((newline level).toList ++ (item.prettyAt level).toList ++
      (prettyItems items level).toList ++ (newline outer).toList) := by
  induction items generalizing item with
  | nil =>
    have read := ((each item List.mem_cons_self).onLine level).beforeLine outer
    simpa [prettyItems] using ReadsItems.last read
  | cons next rest ih =>
    obtain ⟨first, others⟩ := List.forall_mem_cons.mp each
    have read := ReadsItems.cons (first.onLine level) (ih others)
    simpa [prettyItems] using read

/-- The members of an object, likewise. -/
theorem ReadsMembers.pretty (level outer : Nat)
    (each : ∀ other ∈ (name, member) :: members, Reads other.2 (other.2.prettyAt level).toList) :
    ReadsMembers ((name, member) :: members) ((newline level).toList ++ (quote name).toList ++ [':', ' '] ++
      (member.prettyAt level).toList ++ (prettyMembers members level).toList ++ (newline outer).toList) := by
  induction members generalizing name member with
  | nil =>
    have read := (each (name, member) List.mem_cons_self).spaced.beforeLine outer
    have alone : ReadsMembers [(name, member)] _ := .last read
    simpa [prettyMembers] using alone.onLine level
  | cons next rest ih =>
    obtain ⟨first, others⟩ := List.forall_mem_cons.mp each
    have both : ReadsMembers ((name, member) :: next :: rest) _ := .cons first.spaced (ih others)
    simpa [prettyMembers] using both.onLine level

/-- A legible document is read from its text over several lines, at whatever level this stands. -/
theorem Legible.reads_pretty (legible : Legible json) (level : Nat) : Reads json (json.prettyAt level).toList := by
  induction legible generalizing level with
  | null => simpa only [prettyAt, compact] using Legible.null.reads_compact
  | bool value => cases value <;> simpa only [prettyAt, compact] using (Legible.bool _).reads_compact
  | int value => simpa only [prettyAt, compact] using (Legible.int value).reads_compact
  | real back => simpa only [prettyAt, compact] using (Legible.real back).reads_compact
  | string value => simpa only [prettyAt, compact] using (Legible.string value).reads_compact
  | @array items _ each =>
    cases items with
    | nil => simpa [prettyAt] using Reads.emptyArray
    | cons item rest =>
      have read := Reads.array (ReadsItems.pretty (level + 1) level fun other isIn => each other isIn (level + 1))
      simpa [prettyAt] using read
  | @object members _ each =>
    cases members with
    | nil => simpa [prettyAt] using Reads.emptyObject
    | cons first rest =>
      have read := Reads.object (ReadsMembers.pretty (level + 1) level fun other isIn => each other isIn (level + 1))
      simpa [prettyAt] using read

/-- A legible document is what its text over several lines is parsed as. -/
theorem parse?_pretty (legible : Legible json) : parse? json.pretty = some json := by
  have read := legible.reads_pretty 0 [] [] false ends_nil
  rw [List.append_nil] at read
  rw [parse?, read?, tokens, pretty, read]
  rfl

end CallWeave.Json
