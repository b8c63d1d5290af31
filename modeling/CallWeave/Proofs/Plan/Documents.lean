import CallWeave.Plan.Reader
import CallWeave.Proofs.Codec.Octets
import CallWeave.Proofs.Plan.Levels
import CallWeave.Proofs.Yaml.Trees

/-!
# Plans read back

A plan is read back from any document that stands for the tree of data which the plan is written as
(`PlanDocument.reads_back`). The reader goes from field to field and never looks at that tree as a whole, so each of
its readers is shown to agree with the tree: a field is found under its name, what is missing is null, and neither of
the two forms of a clipboard is taken for the other.
-/

namespace CallWeave

open Yaml

/-- A clipboard whose instructions, if it has its own, are a value with no float but finite ones. -/
def PlanClipboard.IsValued : PlanClipboard → Prop
  | .fromTag _ _ _ => True
  | .literal instructions _ => instructions.IsValue ∧ ∀ x, Json.Holds x instructions → x.isFinite = true

/-- A plan with such clipboards only, at any depth. -/
def PlanDocument.IsValued (plan : PlanDocument) : Prop :=
  ∀ deep ∈ plan.levels, ∀ step ∈ deep.steps, ∀ clipboard ∈ step.clipboard, clipboard.IsValued

namespace Plan

variable {source : Source} {node : Node Nat} {json : Json} {text : String}

/-- A node stands for a document, within the levels that are left. -/
def Source.Gives (source : Source) (node : Node Nat) (json : Json) : Prop :=
  source.document.value? source.depth node = some (.ofJson json)

/-! ## Scalars -/

/-- What stands for a text is a scalar of that text. -/
theorem Source.Gives.string (gives : source.Gives node (.string text)) :
    text? source node = some text ∧ atom? source node = some (.text text) ∧ isNull source node = false ∧
      ∀ anchor items, source.document.resolve node ≠ .sequence anchor items := by
  cases holding_of_value? gives with
  | scalar isScalar isAtom =>
    rw [text?, atom?, isNull, isScalar]
    cases standsFor_of_scalarAtom isAtom with
    | quoted => exact ⟨rfl, congrArg some isAtom, rfl, nofun⟩
    | text isThere => exact ⟨rfl, congrArg some isAtom, isThere, nofun⟩

theorem Source.Gives.null (gives : source.Gives node .null) : isNull source node = true := by
  cases holding_of_value? gives with
  | scalar isScalar isAtom =>
    rw [isNull, isScalar]
    cases standsFor_of_scalarAtom isAtom with
    | null isNothing => exact isNothing

theorem Source.Gives.bool {b : Bool} (gives : source.Gives node (.bool b)) : bool? source node = some b := by
  cases holding_of_value? gives with
  | scalar isScalar isAtom =>
    rw [bool?, isScalar]
    cases standsFor_of_scalarAtom isAtom with
    | bool _ truth => exact truth

theorem Source.Gives.kind {kind : EncoderKind} (gives : source.Gives node (.string kind.name)) :
    kind? source node = some kind := by
  rw [kind?, gives.string.1]
  cases kind <;> rfl

theorem Source.Gives.bytes {bytes : Bytes} (gives : source.Gives node (bytesToJson bytes)) :
    bytes? source node = some bytes := by
  obtain ⟨-, isAtom, -, noSequence⟩ := Source.Gives.string gives
  rw [bytes?.eq_def]
  split
  case h_1 isSequence => exact absurd isSequence (noSequence _ _)
  case h_2 => simp only [isAtom, Hex.decode_encode, Except.toOption]

theorem Source.Gives.address {address : Address} (gives : source.Gives node address.toJson) :
    address? source node = some address := by
  obtain ⟨-, isAtom, -, noSequence⟩ := Source.Gives.string gives
  rw [address?.eq_def]
  split
  case h_1 isSequence => exact absurd isSequence (noSequence _ _)
  case h_2 => simp only [isAtom, Address.parse_toHex, Except.toOption]

theorem Source.Gives.amount {amount : Uint256} (gives : source.Gives node (uint256ToJson amount)) :
    amount? source node = some amount := by
  obtain ⟨-, isAtom, -⟩ := Source.Gives.string gives
  rw [amount?, isAtom, Option.bind_some, amountOf?, Numeral.uint256_encodeNat, Except.toOption]

/-- An optional field is read back as soon as what it may hold is, and is not taken for null. -/
theorem Source.Gives.optional {α : Type} {write : α → Json} {read? : Node Nat → Option α} {value : Option α}
    (gives : source.Gives node (.ofOption write value))
    (reads : ∀ a ∈ value, source.Gives node (write a) → isNull source node = false ∧ read? node = some a) :
    optional? source read? node = some value := by
  cases value with
  | none => rw [optional?, if_pos gives.null]
  | some a =>
    obtain ⟨isThere, read⟩ := reads a rfl gives
    rw [optional?, if_neg (by simp [isThere]), read, Option.map_some]

/-! ## Fields -/

/-- Fields are those of some members: each bears the name of its own, no two of one name. -/
structure Named (source : Source) (fields : List (String × Node Nat)) (members : List (String × Json)) : Prop where
  each : List.Forall₂ (fun field member => field.1 = member.1 ∧ source.Gives field.2 member.2) fields members
  distinct : (members.map (·.1)).Nodup

/-- An object takes a level and is not taken for null. -/
theorem Source.Gives.members {members : List (String × Json)} (gives : source.Gives node (.object members)) :
    isNull source node = false ∧ 0 < source.depth := by
  cases holding_of_value? gives with
  | mapping isDeep isMapping =>
    rw [isNull, isMapping]
    exact ⟨rfl, by omega⟩

/-- What stands for an object is a mapping, one level above its fields. -/
theorem Source.Gives.object {members : List (String × Json)} (gives : source.Gives node (.object members))
    (distinct : (members.map (·.1)).Nodup) :
    ∃ below fields, source.depth = below + 1 ∧ fields? source node = some fields ∧
      Named ⟨source.document, below⟩ fields members := by
  cases holding_of_value? gives with
  | mapping isDeep isMapping each =>
    rename_i below anchor pairs
    rw [Value.ofMembers_eq_map, List.forall₂_map_right_iff] at each
    obtain ⟨fields, read, named⟩ : ∃ fields, (pairs.mapM fun pair =>
        (text? source pair.1).map fun name => (name, pair.2)) = some fields ∧
        List.Forall₂ (fun field member => field.1 = member.1 ∧
          Source.Gives ⟨source.document, below⟩ field.2 member.2) fields members := by
      clear gives distinct isMapping
      induction each with
      | nil => exact ⟨[], rfl, .nil⟩
      | @cons pair member _ _ first _ ih =>
        obtain ⟨fields, read, named⟩ := ih
        have isKey : (⟨source.document, below⟩ : Source).Gives pair.1 (.string member.1) := first.1
        have isName : text? source pair.1 = some member.1 := isKey.string.1
        refine ⟨(member.1, pair.2) :: fields, ?_, .cons ⟨rfl, first.2⟩ named⟩
        rw [List.mapM_cons, read]
        simp only [isName]
        rfl
    refine ⟨below, fields, isDeep, ?_, named, distinct⟩
    rw [fields?, isMapping]
    exact (if_neg (by omega)).trans read

/-- Fields bear the names of the members. -/
theorem names_eq {fields : List (String × Node Nat)} {members : List (String × Json)}
    (each : List.Forall₂ (fun field member => field.1 = member.1 ∧ source.Gives field.2 member.2) fields members) :
    fields.map (·.1) = members.map (·.1) := by
  induction each with
  | nil => rfl
  | cons first _ ih => rw [List.map_cons, List.map_cons, first.1, ih]

/-- The name of a member is that of one field alone. -/
theorem Named.filter_eq {fields : List (String × Node Nat)} {members : List (String × Json)} {name : String}
    (named : Named source fields members) (isMember : (name, json) ∈ members) :
    ∃ node, fields.filter (·.1 == name) = [(name, node)] ∧ source.Gives node json := by
  obtain ⟨each, distinct⟩ := named
  induction each with
  | nil => cases isMember
  | @cons field member fields members first rest ih =>
    obtain ⟨same, gives⟩ := first
    obtain ⟨new, distinct⟩ := List.nodup_cons.mp distinct
    rcases List.mem_cons.mp isMember with rfl | later
    · have noOther : fields.filter (·.1 == name) = [] := by
        rw [List.filter_eq_nil_iff]
        intro other isOther isSame
        rw [← names_eq rest] at new
        exact new (List.mem_map.mpr ⟨other, isOther, by simpa using isSame⟩)
      obtain ⟨_, node⟩ := field
      obtain rfl : _ = name := same
      exact ⟨node, by rw [List.filter_cons_of_pos (by simp), noOther], gives⟩
    · have other : member.1 ≠ name := fun same => new (List.mem_map.mpr ⟨_, later, same.symm⟩)
      obtain ⟨node, found, gives⟩ := ih later distinct
      exact ⟨node, by rw [List.filter_cons_of_neg (by simpa [same] using other), found], gives⟩

theorem Named.field? {fields : List (String × Node Nat)} {members : List (String × Json)} {name : String}
    {α : Type} {default value : α} {read? : Node Nat → Option α} (named : Named source fields members)
    (isMember : members.lookup name = some json) (read : ∀ node, source.Gives node json → read? node = some value) :
    Plan.field? fields name default read? = some value := by
  obtain ⟨before, behind, rfl, -⟩ := List.lookup_eq_some_iff.mp isMember
  obtain ⟨node, found, gives⟩ := named.filter_eq (List.mem_append_right before List.mem_cons_self)
  rw [Plan.field?, found]
  exact read node gives

/-! ## Clipboards -/

theorem slot?_ofJson (slot : UInt64) :
    Value.ofJson (.ofNat slot.toNat) ≠ .atom .null ∧ slot? (.ofJson (.ofNat slot.toNat)) = some slot := by
  refine ⟨nofun, ?_⟩
  have small : slot.toNat < Nat.pow 2 64 := slot.toNat_lt
  rw [Json.ofNat, Value.ofJson, if_pos (Int.natCast_nonneg _), slot?, Int.toNat_natCast, if_pos small,
    UInt64.ofNat_toNat]

theorem valueAmount?_ofJson (amount : Uint256) :
    Value.ofJson (uint256ToJson amount) ≠ .atom .null ∧
      valueAmount? (.ofJson (uint256ToJson amount)) = some amount := by
  refine ⟨nofun, ?_⟩
  rw [uint256ToJson, Value.ofJson, valueAmount?, amountOf?, Numeral.uint256_encodeNat, Except.toOption]

/-- What may be missing among values is read back, unless it would be taken for null. -/
theorem optionalValue?_ofJson {α : Type} {write : α → Json} {read? : Value → Option α}
    (reads : ∀ a, Value.ofJson (write a) ≠ .atom .null ∧ read? (.ofJson (write a)) = some a) (value : Option α) :
    optionalValue? read? (some (.ofJson (.ofOption write value))) = some value := by
  cases value with
  | none => rfl
  | some a =>
    obtain ⟨isThere, read⟩ := reads a
    rw [Json.ofOption, optionalValue?.eq_def]
    split
    case h_1 missing => cases missing
    case h_2 isNull => exact absurd (Option.some.inj isNull) isThere
    case h_3 same =>
      obtain rfl := Option.some.inj same
      rw [read, Option.map_some]

theorem fromTag?_toJson (tag : String) (copySlot : Option UInt64) (pasteSlot : UInt64) :
    fromTag? (Value.ofMembers [("from_tag", .string tag),
      ("copy_slot", .ofOption (fun slot => .ofNat slot.toNat) copySlot), ("paste_slot", .ofNat pasteSlot.toNat)]) =
      some (.fromTag tag copySlot pasteSlot) := by
  generalize written : Value.ofMembers [("from_tag", .string tag),
      ("copy_slot", .ofOption (fun slot => .ofNat slot.toNat) copySlot), ("paste_slot", .ofNat pasteSlot.toNat)] = pairs
  have tagField : valueField? pairs "from_tag" 0 = some (some (.atom (.text tag))) := written ▸ rfl
  have copyField : valueField? pairs "copy_slot" 1 =
    some (some (Value.ofJson (.ofOption (fun slot => .ofNat slot.toNat) copySlot))) := written ▸ rfl
  have pasteField : valueField? pairs "paste_slot" 2 = some (some (Value.ofJson (.ofNat pasteSlot.toNat))) :=
    written ▸ rfl
  rw [fromTag?, tagField, copyField, pasteField]
  simp only [optionalValue?_ofJson slot?_ofJson, (slot?_ofJson pasteSlot).2]

theorem literal?_toJson {instructions : Json} (read : (Value.ofJson instructions).json? = some instructions)
    (value : Option Uint256) :
    literal? (Value.ofMembers [("instructions", instructions), ("value", .ofOption uint256ToJson value)]) =
      some (.literal instructions value) := by
  generalize written :
    Value.ofMembers [("instructions", instructions), ("value", .ofOption uint256ToJson value)] = pairs
  have instructionsField : valueField? pairs "instructions" 0 = some (some (.ofJson instructions)) := written ▸ rfl
  have amountField : valueField? pairs "value" 1 = some (some (.ofJson (.ofOption uint256ToJson value))) :=
    written ▸ rfl
  rw [literal?, instructionsField, amountField]
  simp only [read, optionalValue?_ofJson valueAmount?_ofJson]

/-- A clipboard is read back in the form that it was written in: only the first form has a tag. -/
theorem Source.Gives.clipboard {clipboard : PlanClipboard} (gives : source.Gives node clipboard.toJson)
    (valued : clipboard.IsValued) : clipboard? source node = some clipboard := by
  have gives : source.document.value? source.depth node = some (.ofJson clipboard.toJson) := gives
  cases clipboard with
  | fromTag tag copySlot pasteSlot =>
    rw [clipboard?, gives, PlanClipboard.toJson, Value.ofJson]
    simp only [fromTag?_toJson]
    rfl
  | literal instructions value =>
    have noTag : fromTag? (Value.ofMembers [("instructions", instructions), ("value", .ofOption uint256ToJson value)]) =
        none := rfl
    rw [clipboard?, gives, PlanClipboard.toJson, Value.ofJson]
    simp only [noTag, literal?_toJson (Value.json?_ofJson valued.1 valued.2)]
    rfl

theorem Source.Gives.isThere_of_clipboard {clipboard : PlanClipboard} (gives : source.Gives node clipboard.toJson) :
    isNull source node = false := by
  cases clipboard <;> exact gives.members.1

/-! ## Steps -/

theorem ofText?_eq_ofOption (text : Option String) : Json.ofText? text = .ofOption .string text := by
  cases text <;> rfl

theorem nestedToJson_eq_ofOption (plan : Option PlanDocument) :
    PlanDocument.nestedToJson plan = .ofOption PlanDocument.toJson plan := by
  cases plan <;> rfl

theorem Source.Gives.members_of_plan {plan : PlanDocument} (gives : source.Gives node plan.toJson) :
    isNull source node = false ∧ 0 < source.depth := by
  cases plan
  exact gives.members

/-- A step is read back when the plan in it is. -/
theorem Source.Gives.step {step : PlanStep} {plan? : Node Nat → Option PlanDocument}
    (gives : source.Gives node (step.toJson (PlanDocument.nestedToJson step.workflow)))
    (valued : ∀ clipboard ∈ step.clipboard, clipboard.IsValued)
    (reads : ∀ inner ∈ step.workflow, ∀ node,
      (⟨source.document, source.depth - 1⟩ : Source).Gives node inner.toJson → plan? node = some inner) :
    step? source plan? node = some step := by
  rw [PlanStepOf.toJson, ofText?_eq_ofOption, nestedToJson_eq_ofOption] at gives
  obtain ⟨below, fields, isDeep, isFields, named⟩ := gives.object (by simp)
  rw [isDeep, Nat.add_sub_cancel] at reads
  generalize isInner : (⟨source.document, below⟩ : Source) = inner at named reads
  have name : field? fields "name" none (fun node => (text? inner node).map some) = some (some step.name) :=
    named.field? rfl fun _ gives => by rw [gives.string.1, Option.map_some]
  have callData : field? fields "call_data" none (optional? inner (bytes? inner)) = some step.callData :=
    named.field? rfl fun _ gives => gives.optional fun _ _ gives => ⟨gives.string.2.2.1, gives.bytes⟩
  have target : field? fields "target" none (optional? inner (address? inner)) = some step.target :=
    named.field? rfl fun _ gives => gives.optional fun _ _ gives => ⟨gives.string.2.2.1, gives.address⟩
  have tag : field? fields "tag" none (optional? inner (text? inner)) = some step.tag :=
    named.field? rfl fun _ gives => gives.optional fun _ _ gives => ⟨gives.string.2.2.1, gives.string.1⟩
  have skip : field? fields "skip" false (bool? inner) = some step.skip :=
    named.field? rfl fun _ gives => gives.bool
  have onlyLocal : field? fields "only_local" false (bool? inner) = some step.onlyLocal :=
    named.field? rfl fun _ gives => gives.bool
  have onlyExecute : field? fields "only_execute" false (bool? inner) = some step.onlyExecute :=
    named.field? rfl fun _ gives => gives.bool
  have amountOut : field? fields "amount_out" none (optional? inner (amount? inner)) = some step.amountOut :=
    named.field? rfl fun _ gives => gives.optional fun _ _ gives => ⟨gives.string.2.2.1, gives.amount⟩
  have value : field? fields "value" none (optional? inner (amount? inner)) = some step.value :=
    named.field? rfl fun _ gives => gives.optional fun _ _ gives => ⟨gives.string.2.2.1, gives.amount⟩
  have clipboard : field? fields "clipboard" none (optional? inner (clipboard? inner)) = some step.clipboard :=
    named.field? rfl fun _ gives => gives.optional fun clipboard isThere gives =>
      ⟨gives.isThere_of_clipboard, gives.clipboard (valued clipboard isThere)⟩
  have workflow : field? fields "workflow" none (optional? inner plan?) = some step.workflow :=
    named.field? rfl fun node gives => gives.optional fun plan isThere gives =>
      ⟨gives.members_of_plan.1, reads plan isThere node gives⟩
  rw [step?, isDeep, Nat.add_sub_cancel, isInner]
  refine Option.bind_eq_some_iff.mpr ⟨_, isFields, Option.bind_eq_some_iff.mpr ⟨_, name, ?_⟩⟩
  refine Option.bind_eq_some_iff.mpr ⟨_, callData, Option.bind_eq_some_iff.mpr ⟨_, target, ?_⟩⟩
  refine Option.bind_eq_some_iff.mpr ⟨_, tag, Option.bind_eq_some_iff.mpr ⟨_, skip, ?_⟩⟩
  refine Option.bind_eq_some_iff.mpr ⟨_, onlyLocal, Option.bind_eq_some_iff.mpr ⟨_, onlyExecute, ?_⟩⟩
  refine Option.bind_eq_some_iff.mpr ⟨_, amountOut, Option.bind_eq_some_iff.mpr ⟨_, value, ?_⟩⟩
  refine Option.bind_eq_some_iff.mpr ⟨_, clipboard, Option.bind_eq_some_iff.mpr ⟨_, workflow, ?_⟩⟩
  rfl

theorem stepsToJson_eq_map (steps : List PlanStep) :
    PlanDocument.stepsToJson steps = steps.map fun step => step.toJson (PlanDocument.nestedToJson step.workflow) := by
  induction steps with
  | nil => rfl
  | cons step rest ih => rw [PlanDocument.stepsToJson, List.map_cons, ih]

/-- Steps are read back one by one, one level further down. -/
theorem Source.Gives.steps {steps : List PlanStep} {step? : Node Nat → Option PlanStep}
    (gives : source.Gives node (.array (PlanDocument.stepsToJson steps)))
    (reads : ∀ step ∈ steps, ∀ node, (⟨source.document, source.depth - 1⟩ : Source).Gives node
      (step.toJson (PlanDocument.nestedToJson step.workflow)) → step? node = some step) :
    steps? source step? node = some steps := by
  cases holding_of_value? gives with
  | sequence isDeep isSequence each =>
    rw [stepsToJson_eq_map, Value.ofItems_eq_map, List.map_map, List.forall₂_map_right_iff] at each
    rw [steps?, isSequence]
    refine (if_neg (by omega)).trans (mapM_eq_some_iff.mpr ?_)
    rw [isDeep, Nat.add_sub_cancel] at reads
    have both := (List.forall₂_and_left (p := fun step => ∀ node, Source.Gives ⟨source.document, _⟩ node _ →
      step? node = some step) _ _).mpr ⟨reads, each.flip⟩
    exact (both.imp fun _ node ⟨read, gives⟩ => read node gives).flip

/-- A plan is read back from what stands for it. -/
theorem Source.Gives.plan {document : Document} (plan : PlanDocument) :
    ∀ (depth : Nat) (node : Node Nat), plan.IsValued → (⟨document, depth⟩ : Source).Gives node plan.toJson →
      document? document depth node = some plan := by
  induction plan using PlanDocument.induction with
  | level plan ih =>
    intro depth node valued gives
    obtain ⟨workflow, kind, steps⟩ := plan
    obtain ⟨own, nested⟩ : (∀ step ∈ steps, ∀ clipboard ∈ step.clipboard, clipboard.IsValued) ∧
        ∀ step ∈ steps, ∀ inner ∈ step.workflow, inner.IsValued := by
      have each := PlanDocument.forall_levels_iff.mp valued
      exact ⟨fun step isStep => (each step isStep).1, fun step isStep => (each step isStep).2⟩
    rw [PlanDocument.toJson, ofText?_eq_ofOption] at gives
    obtain ⟨below, fields, rfl, isFields, named⟩ := gives.object (by simp)
    have name : field? fields "workflow" none (optional? ⟨document, below + 1⟩ (text? ⟨document, below + 1⟩)) =
        some workflow :=
      named.field? rfl fun _ gives => gives.optional fun _ _ gives => ⟨gives.string.2.2.1, gives.string.1⟩
    have entryPoint : field? fields "kind" .advancedFarm (kind? ⟨document, below + 1⟩) = some kind :=
      named.field? rfl fun _ gives => gives.kind
    have stepsField {plan? : Node Nat → Option PlanDocument}
        (reads : ∀ step ∈ steps, ∀ inner ∈ step.workflow, ∀ node,
          (⟨document, below - 2⟩ : Source).Gives node inner.toJson → plan? node = some inner) :
        field? fields "steps" [] (steps? ⟨document, below⟩ (step? ⟨document, below - 1⟩ plan?)) = some steps :=
      named.field? rfl fun _ gives => gives.steps fun step isStep _ gives =>
        gives.step (own step isStep) (reads step isStep)
    -- a plan within a plan takes three levels, so where fewer are left there is none
    have noPlan (few : below < 2) : ∀ step ∈ steps, ∀ inner ∈ step.workflow, ∀ node,
        (⟨document, below - 2⟩ : Source).Gives node inner.toJson → none = some inner := by
      intro step _ inner _ node gives
      have isDeep : 0 < below - 2 := gives.members_of_plan.2
      omega
    rw [document?.eq_def]
    simp only [isFields, Option.bind_eq_bind, Option.bind_some, name, entryPoint]
    rcases below with _ | _ | rest
    case zero => exact congrArg (Option.bind · _) (stepsField (noPlan (by omega)))
    case succ.zero => exact congrArg (Option.bind · _) (stepsField (noPlan (by omega)))
    case succ.succ =>
      exact congrArg (Option.bind · _) (stepsField fun step isStep inner holds node gives =>
        ih step isStep inner holds rest node (nested step isStep inner holds) gives)

end Plan

/-! ## Plans -/

/-- A plan is read back, at any depth, from whatever stands for the tree that it is written as, and so from a text of
such a document. A clipboard in it is never read in the other of its two forms. -/
theorem PlanDocument.reads_back (plan : PlanDocument) (valued : plan.IsValued) :
    (∀ (document : Document) (depth : Nat) (node : Node Nat),
      document.value? depth node = some (.ofJson plan.toJson) → Plan.document? document depth node = some plan) ∧
    (∀ (text : String) (root : Node Nat) (targets : Targets), Yaml.document? text = some ⟨some root, targets⟩ →
      Document.value? ⟨some root, targets⟩ 128 root = some (.ofJson plan.toJson) → Plan.parse? text = some plan) ∧
    ∀ deep ∈ plan.levels, ∀ step ∈ deep.steps, ∀ clipboard ∈ step.clipboard,
      ∀ (document : Document) (depth : Nat) (node : Node Nat),
        document.value? depth node = some (.ofJson clipboard.toJson) →
          Plan.clipboard? ⟨document, depth⟩ node = some clipboard := by
  refine ⟨fun document depth node gives => ?document, fun text root targets isDocument gives => ?text, ?clipboard⟩
  case document => exact Plan.Source.Gives.plan plan depth node valued gives
  case text =>
    rw [Plan.parse?, isDocument]
    exact Plan.Source.Gives.plan plan 128 root valued gives
  case clipboard =>
    intro deep isIn step isStep clipboard isThere document depth node gives
    have gives : Plan.Source.Gives ⟨document, depth⟩ node clipboard.toJson := gives
    exact gives.clipboard (valued deep isIn step isStep clipboard isThere)

/-- A clipboard that pastes from a step whose tag reads like a truth value. -/
def taggedClipboard : PlanClipboard := .fromTag "true" none 7

/-- A list of one instruction, a field of which is a text. -/
def listedInstructions : Json := .array [.array [.int 0, .int 32, .string "0x24"]]

/-- A plan whose only step is a plan of its own, which is called `null`. -/
def writtenPlan : PlanDocument :=
  .mk none .farm [⟨"outer", none, none, some "1", true, false, false, none, none,
    some (.literal listedInstructions none),
    some (.mk (some "null") .advancedPipe
      [⟨"", some [0, 255], none, none, false, true, false, some 17, none, some taggedClipboard, none⟩])⟩]

/-- A mapping whose names are plain scalars. -/
def fieldNodes (fields : List (String × Node Nat)) : Node Nat :=
  .mapping none (fields.map fun field => (.scalar none field.1 true, field.2))

/-- The tagged clipboard as it may stand in a document. -/
def taggedNode : Node Nat :=
  fieldNodes [("from_tag", .scalar none "true" false), ("copy_slot", .scalar none "~" true),
    ("paste_slot", .scalar none "0x7" true)]

/-- The plan as it may stand in a document. -/
def writtenNode : Node Nat :=
  let missing : Node Nat := .scalar none "null" true
  let yes : Node Nat := .scalar none "true" true
  let no : Node Nat := .scalar none "false" true
  let instruction : Node Nat :=
    .sequence none [.scalar none "0" true, .scalar none "+32" true, .scalar none "0x24" false]
  let listed := fieldNodes [("instructions", .sequence none [instruction]), ("value", missing)]
  let nested := fieldNodes [("name", .scalar none "" false), ("call_data", .scalar none "0x00ff" false),
    ("target", missing), ("tag", missing), ("skip", no), ("only_local", yes), ("only_execute", no),
    ("amount_out", .scalar none "0x11" false), ("value", missing), ("clipboard", taggedNode), ("workflow", missing)]
  let outer := fieldNodes [("name", .scalar none "outer" true), ("call_data", missing), ("target", missing),
    ("tag", .scalar none "1" false), ("skip", yes), ("only_local", no), ("only_execute", no), ("amount_out", missing),
    ("value", missing), ("clipboard", listed),
    ("workflow", fieldNodes [("workflow", .scalar none "null" false), ("kind", .scalar none "advanced_pipe" true),
      ("steps", .sequence none [nested])])]
  fieldNodes [("workflow", missing), ("kind", .scalar none "farm" true), ("steps", .sequence none [outer])]

/-- A plan without steps as a text. -/
def steplessText : String := "workflow: '7'\nkind: farm\nsteps: []\n"

theorem writtenPlan_reads_back : Plan.document? ⟨some writtenNode, []⟩ 128 writtenNode = some writtenPlan ∧
    Plan.parse? steplessText = some (.mk (some "7") .farm []) ∧
    Plan.clipboard? ⟨⟨some writtenNode, []⟩, 122⟩ taggedNode = some taggedClipboard := by
  have listed : PlanClipboard.IsValued (.literal listedInstructions none) :=
    ⟨Json.isValue_of_valueAt? listedInstructions 128 rfl, by simp [listedInstructions]⟩
  have tagged : taggedClipboard.IsValued := trivial
  have valued : writtenPlan.IsValued := by
    simp [PlanDocument.IsValued, writtenPlan, PlanDocument.levels, PlanDocument.levelsIn, PlanDocument.levelsOf,
      PlanDocument.steps, listed, tagged]
  obtain ⟨fromNode, -, ofClipboard⟩ := PlanDocument.reads_back writtenPlan valued
  obtain ⟨-, fromText, -⟩ := PlanDocument.reads_back (.mk (some "7") .farm []) (by simp [PlanDocument.IsValued,
    PlanDocument.levels, PlanDocument.levelsIn, PlanDocument.steps])
  have tokens : (stream? steplessText).bind tokens? = some [.blockMappingStart, .key, .scalar "workflow" true, .value,
      .scalar "7" false, .key, .scalar "kind" true, .value, .scalar "farm" true, .key, .scalar "steps" true, .value,
      .flowSequenceStart, .flowSequenceEnd, .blockEnd] := by decide +kernel
  refine ⟨fromNode _ _ _ (by rfl), fromText _ _ _ (by rw [Yaml.document?, tokens]; rfl) (by rfl), ?_⟩
  have isIn : .mk (some "null") .advancedPipe _ ∈ writtenPlan.levels := List.mem_cons_of_mem _ List.mem_cons_self
  exact ofClipboard _ isIn _ List.mem_cons_self _ rfl _ _ _ (by rfl)

end CallWeave
