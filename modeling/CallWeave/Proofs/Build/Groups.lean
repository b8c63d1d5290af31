import CallWeave.Proofs.Build.Alignment
import Mathlib.Data.List.Lex
import Mathlib.Data.List.Sort

/-!
# Groups of generators

The leaves of a group stand at addresses: the places of the members that lead to them. A group is added as its
leaves are one after another, in the order of their addresses (`Workflow.add_leaves`), so it does not matter how
generators are grouped. Under a tag at most one of them emits in a build that succeeds, and the tag stands for it
(`Workflow.add_regrouped`).
-/

namespace CallWeave

variable {σ : Type}

namespace GeneratorGroup

variable {input other : GeneratorGroup σ} {members : List (GeneratorGroup σ)} {address : List Nat}
  {generator : Generator σ} {leaves : List (Generator σ)}

/-- A generator stands at an address: a single one at the empty address, and what stands in a member behind the
place of that member. -/
inductive LeafAt : GeneratorGroup σ → List Nat → Generator σ → Prop
  | one (generator : Generator σ) : LeafAt (.one generator) [] generator
  | member {members : List (GeneratorGroup σ)} {place : Nat} {member : GeneratorGroup σ} {address : List Nat}
    {generator : Generator σ} (isMember : members[place]? = some member) (isLeaf : LeafAt member address generator) :
    LeafAt (.group members) (place :: address) generator

/-- The leaves of a group from left to right: those at all of its addresses, in lexicographic order. -/
def LeavesInOrder (input : GeneratorGroup σ) (leaves : List (Generator σ)) : Prop :=
  ∃ placed : List (List Nat × Generator σ), placed.Pairwise (·.1 < ·.1) ∧
    (∀ address generator, (address, generator) ∈ placed ↔ input.LeafAt address generator) ∧
    leaves = placed.map Prod.snd

/-! ## Addresses -/

mutual

/-- The leaves of a group with their addresses. -/
def addressed : GeneratorGroup σ → List (List Nat × Generator σ)
  | .one generator => [([], generator)]
  | .group members => addressedAll 0 members

/-- The leaves of several members, the first of which stands at some place. -/
def addressedAll : (place : Nat) → List (GeneratorGroup σ) → List (List Nat × Generator σ)
  | _, [] => []
  | place, first :: rest =>
    (first.addressed.map fun leaf => (place :: leaf.1, leaf.2)) ++ addressedAll (place + 1) rest

end

mutual

theorem map_snd_addressed : ∀ input : GeneratorGroup σ, input.addressed.map Prod.snd = input.flatten
  | .one _ => rfl
  | .group members => map_snd_addressedAll 0 members

theorem map_snd_addressedAll : ∀ (place : Nat) (members : List (GeneratorGroup σ)),
    (addressedAll place members).map Prod.snd = flattenAll members
  | _, [] => rfl
  | place, first :: rest => by
    rw [addressedAll, List.map_append, List.map_map, flattenAll, ← map_snd_addressed first,
      map_snd_addressedAll (place + 1) rest]
    rfl

end

mutual

theorem mem_addressed_iff : ∀ (input : GeneratorGroup σ) (address : List Nat) (generator : Generator σ),
    (address, generator) ∈ input.addressed ↔ input.LeafAt address generator
  | .one leaf, address, generator => by
    rw [addressed, List.mem_singleton, Prod.mk.injEq]
    constructor
    · rintro ⟨rfl, rfl⟩
      exact .one _
    · rintro ⟨⟩
      exact ⟨rfl, rfl⟩
  | .group members, address, generator => by
    rw [addressed, mem_addressedAll_iff]
    constructor
    · rintro ⟨place, member, rest, rfl, isMember, isLeaf⟩
      rw [Nat.zero_add]
      exact .member isMember isLeaf
    · rintro (_ | ⟨isMember, isLeaf⟩)
      exact ⟨_, _, _, by rw [Nat.zero_add], isMember, isLeaf⟩

theorem mem_addressedAll_iff : ∀ (start : Nat) (members : List (GeneratorGroup σ)) (address : List Nat)
    (generator : Generator σ), (address, generator) ∈ addressedAll start members ↔
      ∃ place member rest, address = (start + place) :: rest ∧ members[place]? = some member ∧
        member.LeafAt rest generator
  | start, [], address, generator => by simp [addressedAll]
  | start, first :: rest, address, generator => by
    rw [addressedAll, List.mem_append, mem_addressedAll_iff (start + 1) rest, List.mem_map]
    constructor
    · rintro (⟨⟨inner, _⟩, isIn, same⟩ | ⟨place, member, inner, rfl, isMember, isLeaf⟩)
      · obtain ⟨rfl, rfl⟩ := Prod.mk.inj same
        exact ⟨0, first, inner, rfl, rfl, (mem_addressed_iff first _ _).mp isIn⟩
      · exact ⟨place + 1, member, inner, by rw [Nat.add_assoc, Nat.add_comm 1], isMember, isLeaf⟩
    · rintro ⟨_ | place, member, inner, rfl, isMember, isLeaf⟩
      · obtain rfl := Option.some.inj isMember
        exact .inl ⟨(inner, generator), (mem_addressed_iff first _ _).mpr isLeaf, rfl⟩
      · exact .inr ⟨place, member, inner, by rw [Nat.add_assoc, Nat.add_comm 1], isMember, isLeaf⟩

end

mutual

/-- Leaves stand in the order of their addresses. -/
theorem pairwise_addressed : ∀ input : GeneratorGroup σ, input.addressed.Pairwise (·.1 < ·.1)
  | .one _ => List.pairwise_singleton _ _
  | .group members => pairwise_addressedAll 0 members

theorem pairwise_addressedAll : ∀ (place : Nat) (members : List (GeneratorGroup σ)),
    (addressedAll place members).Pairwise (·.1 < ·.1)
  | _, [] => List.Pairwise.nil
  | place, first :: rest => by
    rw [addressedAll, List.pairwise_append, List.pairwise_map]
    refine ⟨(pairwise_addressed first).imp fun less => List.cons_lt_cons_iff.mpr (.inr ⟨rfl, less⟩),
      pairwise_addressedAll (place + 1) rest, ?_⟩
    rintro _ inFirst ⟨address, generator⟩ inRest
    obtain ⟨leaf, -, rfl⟩ := List.mem_map.mp inFirst
    obtain ⟨further, _, _, rfl, -, -⟩ := (mem_addressedAll_iff _ _ _ _).mp inRest
    exact List.cons_lt_cons_iff.mpr (.inl (by omega))

end

/-- The leaves of a group in order are what it is flattened to. -/
theorem leavesInOrder_iff : input.LeavesInOrder leaves ↔ leaves = input.flatten := by
  constructor
  · rintro ⟨placed, inOrder, all, rfl⟩
    have nodup {placed : List (List Nat × Generator σ)} (inOrder : placed.Pairwise (·.1 < ·.1)) : placed.Nodup :=
      inOrder.imp fun less same => absurd (congrArg Prod.fst same) less.ne
    -- the addresses are in order on both sides, and the same leaves stand at them
    have sameLeaves : placed.Perm input.addressed :=
      (List.perm_ext_iff_of_nodup (nodup inOrder) (nodup (pairwise_addressed input))).mpr fun leaf =>
        (all leaf.1 leaf.2).trans (mem_addressed_iff input leaf.1 leaf.2).symm
    rw [← map_snd_addressed, sameLeaves.eq_of_pairwise
      (fun one other _ _ less more => absurd less (lt_asymm more)) inOrder (pairwise_addressed input)]
  · rintro rfl
    exact ⟨input.addressed, pairwise_addressed input, mem_addressed_iff input, (map_snd_addressed input).symm⟩

end GeneratorGroup

/-! ## Positions of turns -/

/-- A turn that emits does so behind those that emit before it. -/
theorem emitting_getElem?_of_emits {turns : List (Turn σ)} {place : Nat} {turn : Turn σ}
    (isTurn : turns[place]? = some turn) (emits : turn.emits = true) :
    (emitting turns)[(emitting (turns.take place)).length]? = some turn := by
  obtain ⟨isLess, rfl⟩ := List.getElem?_eq_some_iff.mp isTurn
  have parted : emitting turns =
      emitting (turns.take place) ++ turns[place] :: emitting (turns.drop (place + 1)) := by
    rw [emitting, emitting, emitting, ← List.filter_cons_of_pos emits, ← List.filter_append, List.getElem_cons_drop,
      List.take_append_drop]
  rw [parted, List.getElem?_append_right (le_refl _), Nat.sub_self]
  rfl

/-- Of two turns the later one has more emitting turns before it, if the earlier one emits. -/
theorem length_emitting_take_lt {turns : List (Turn σ)} {place later : Nat} {turn : Turn σ}
    (isTurn : turns[place]? = some turn) (emits : turn.emits = true) (isLater : place < later) :
    (emitting (turns.take place)).length < (emitting (turns.take later)).length := by
  have isTaken : (turns.take later)[place]? = some turn := by rw [List.getElem?_take_of_lt isLater, isTurn]
  have emitted := emitting_getElem?_of_emits isTaken emits
  rw [List.take_take, Nat.min_eq_left isLater.le] at emitted
  exact (List.getElem?_eq_some_iff.mp emitted).1

namespace Workflow

variable {workflow : Workflow σ} {input : GeneratorGroup σ} {options : StepOptions} {leaves : List (Generator σ)}

/-- Adds inputs one after another, each under its own options. -/
def addAll (workflow : Workflow σ) (inputs : List (GeneratorGroup σ × StepOptions)) : Workflow σ :=
  inputs.foldl (fun workflow input => workflow.add input.1 input.2) workflow

/-- Further inputs come behind what is there. -/
theorem exists_entries_addAll (workflow : Workflow σ) (inputs : List (GeneratorGroup σ × StepOptions)) :
    ∃ further, (workflow.addAll inputs).entries = workflow.entries ++ further := by
  induction inputs generalizing workflow with
  | nil => exact ⟨[], (List.append_nil _).symm⟩
  | cons input rest ih =>
    obtain ⟨further, behind⟩ := ih (workflow.add input.1 input.2)
    exact ⟨_, behind.trans (List.append_assoc _ _ _)⟩

/-- Generators that are added one after another come behind each other. -/
theorem foldl_add_one (workflow : Workflow σ) (leaves : List (Generator σ)) (options : StepOptions) :
    leaves.foldl (fun workflow leaf => workflow.add (.one leaf) options) workflow =
      { workflow with entries := workflow.entries ++ leaves.map fun leaf => ⟨leaf, options⟩ } := by
  induction leaves generalizing workflow with
  | nil => rw [List.map_nil, List.append_nil, List.foldl_nil]
  | cons leaf rest ih =>
    rw [List.foldl_cons, ih, add, List.map_cons, List.append_cons]
    rfl

/-- A group is added as its leaves are one after another. -/
theorem add_leaves (inOrder : input.LeavesInOrder leaves) :
    workflow.add input options = leaves.foldl (fun workflow leaf => workflow.add (.one leaf) options) workflow := by
  rw [foldl_add_one, GeneratorGroup.leavesInOrder_iff.mp inOrder]
  rfl

/-- At most one of the turns at some places made a step, and if one did, the tag stands for the position at which
that turn emits. -/
structure MadeOnce (workflow : Workflow σ) (cells : Cells) (turns : List (Turn σ)) (tag : String)
    (places : Nat → Prop) : Prop where
  one : ∀ place place', places place → places place' → ∀ turn turn', turns[place]? = some turn →
    turns[place']? = some turn' → turn.step?.isSome → turn'.step?.isSome → place = place'
  found : ∀ place, places place → ∀ turn, turns[place]? = some turn → turn.step?.isSome →
    workflow.findTag cells tag = .ok (emitting (turns.take place)).length ∧
      (emitting turns)[(emitting (turns.take place)).length]? = some turn

/-- Turns under one tag, none of them local, are of that kind in every build that succeeds. -/
theorem Ran.madeOnce {purpose : Purpose} {amount : Uint256} {world after : World σ} {built : Build}
    {turns : List (Turn σ)} (ran : workflow.Ran purpose amount world turns built after) {tag : String}
    {places : Nat → Prop}
    (tagged : ∀ place, places place → ∀ turn, turns[place]? = some turn →
      turn.entry.options.tag = some tag ∧ turn.entry.options.onlyLocal = false) :
    workflow.MadeOnce after.cells turns tag places := by
  have emits {place : Nat} (isPlace : places place) {turn : Turn σ} (isTurn : turns[place]? = some turn)
      (made : turn.step?.isSome) : turn.emits = true := by
    rw [Turn.emits, ← (ran.taken turn (List.mem_of_getElem? isTurn)).isSome_step?, made,
      (tagged place isPlace turn isTurn).2]
    rfl
  have found {place : Nat} (isPlace : places place) {turn : Turn σ} (isTurn : turns[place]? = some turn)
      (made : turn.step?.isSome) :
      workflow.findTag after.cells tag = .ok (emitting (turns.take place)).length ∧
        (emitting turns)[(emitting (turns.take place)).length]? = some turn := by
    have emitted := emitting_getElem?_of_emits isTurn (emits isPlace isTurn made)
    exact ⟨(ran.aligned.findTag _ _).mpr ⟨turn, emitted, (tagged place isPlace turn isTurn).1⟩, emitted⟩
  refine ⟨fun place place' isPlace isPlace' turn turn' isTurn isTurn' made made' => ?_,
    fun place isPlace turn isTurn made => found isPlace isTurn made⟩
  -- the tag stands for one position, but turns at different places emit at different positions
  have same := (found isPlace isTurn made).1.symm.trans (found isPlace' isTurn' made').1
  obtain less | rfl | more := lt_trichotomy place place'
  · have fewer := length_emitting_take_lt isTurn (emits isPlace isTurn made) less
    exact absurd (Except.ok.inj same) fewer.ne
  · rfl
  · have fewer := length_emitting_take_lt isTurn' (emits isPlace' isTurn' made') more
    exact absurd (Except.ok.inj same) fewer.ne'

/-- Grouping is irrelevant: every input has leaves, and adding the input is adding these one after another, so that
inputs with the same leaves are added alike. Under a tag, a build that succeeds, in whatever mode and whatever was
added before and behind, has made at most one of them unless they are local, and the tag stands for the position
at which that one emits. -/
theorem add_regrouped (workflow : Workflow σ) (input : GeneratorGroup σ) (options : StepOptions) :
    ∃ leaves, (∀ other, input.LeavesInOrder other ↔ other = leaves) ∧
      workflow.add input options = leaves.foldl (fun workflow leaf => workflow.add (.one leaf) options) workflow ∧
      (∀ regrouped : GeneratorGroup σ, regrouped.LeavesInOrder leaves →
        workflow.add regrouped options = workflow.add input options) ∧
      ∀ tag, options.tag = some tag → options.onlyLocal = false → ∀ inputs amount mode data world out after,
        ((workflow.add input options).addAll inputs).build amount mode data world = (.ok out, after) →
        ∃ turns built,
          ((workflow.add input options).addAll inputs).Ran ⟨mode, data⟩ amount world turns built after ∧
          built.amountOut = out ∧
          (∀ place (isLeaf : place < leaves.length), ∃ turn,
            turns[workflow.entries.length + place]? = some turn ∧ turn.entry = ⟨leaves[place], options⟩) ∧
          ((workflow.add input options).addAll inputs).MadeOnce after.cells turns tag fun place =>
            workflow.entries.length ≤ place ∧ place < workflow.entries.length + leaves.length := by
  have added (regrouped : GeneratorGroup σ) (inOrder : regrouped.LeavesInOrder input.flatten) :
      workflow.add regrouped options =
        input.flatten.foldl (fun workflow leaf => workflow.add (.one leaf) options) workflow := add_leaves inOrder
  have inOrder : input.LeavesInOrder input.flatten := GeneratorGroup.leavesInOrder_iff.mpr rfl
  refine ⟨input.flatten, fun other => GeneratorGroup.leavesInOrder_iff, added input inOrder,
    fun regrouped same => (added regrouped same).trans (added input inOrder).symm, ?_⟩
  intro tag isTag notLocal inputs amount mode data world out after ok
  obtain ⟨built, amountOut, ok⟩ := build_ok ok
  obtain ⟨turns, ran⟩ := buildFor_ok ok
  obtain ⟨further, entries⟩ := exists_entries_addAll (workflow.add input options) inputs
  -- the turns of the leaves come behind those of what was there before
  have isLeaf (place : Nat) (isLess : place < input.flatten.length) : ∃ turn,
      turns[workflow.entries.length + place]? = some turn ∧ turn.entry = ⟨input.flatten[place], options⟩ := by
    have isEntry : (turns.map Turn.entry)[workflow.entries.length + place]? =
        some ⟨input.flatten[place], options⟩ := by
      rw [ran.entries, entries, add, List.append_assoc, List.getElem?_append_right (Nat.le_add_right _ _),
        Nat.add_sub_cancel_left, List.getElem?_append_left (by simpa using isLess), List.getElem?_map,
        List.getElem?_eq_getElem isLess, Option.map_some]
    rw [List.getElem?_map] at isEntry
    exact Option.map_eq_some_iff.mp isEntry
  refine ⟨turns, built, ran, amountOut, isLeaf, ran.madeOnce fun place isPlace turn isTurn => ?_⟩
  obtain ⟨offset, rfl⟩ := Nat.exists_eq_add_of_le isPlace.1
  obtain ⟨leafTurn, isLeafTurn, entry⟩ := isLeaf offset (by omega)
  obtain rfl := Option.some.inj (isTurn.symm.trans isLeafTurn)
  rw [entry]
  exact ⟨isTag, notLocal⟩

/-- Two generators in groups of groups, to be left out as soon as the running amount is large. -/
def cautious : GeneratorGroup Unit :=
  .group [.group [.one (Adjustment.add "top up" 5).generator], .group [],
    .group [.group [.one (RawCall.plain "swap" [3]).generator]]]

/-- A plan to add them to, under one tag. -/
def permitPlan : Workflow Unit :=
  ⟨[0], "permit", ⟨.farm, default⟩, [⟨(RawCall.plain "permit" [2]).generator, .plain⟩]⟩

def cautiousOptions : StepOptions := ⟨some "swap", .when fun amount _ => decide (10 < amount), false, false⟩

theorem cautious_regrouped :
    permitPlan.add cautious cautiousOptions =
      (permitPlan.add (.one (Adjustment.add "top up" 5).generator) cautiousOptions).add
        (.one (RawCall.plain "swap" [3]).generator) cautiousOptions ∧
    ∃ after turns, (permitPlan.add cautious cautiousOptions).build 7 .execute .empty (.start ()) = (.ok 12, after) ∧
      (permitPlan.add cautious cautiousOptions).MadeOnce after.cells turns "swap"
        (fun place => 1 ≤ place ∧ place < 3) ∧
      (permitPlan.add cautious cautiousOptions).findTag after.cells "swap" = .ok 1 := by
  obtain ⟨leaves, only, added, -, tagged⟩ := add_regrouped permitPlan cautious cautiousOptions
  obtain rfl : cautious.flatten = leaves := (only _).mp (GeneratorGroup.leavesInOrder_iff.mpr rfl)
  have ok : (permitPlan.add cautious cautiousOptions).build 7 .execute .empty (.start ()) =
      (.ok 12, ((permitPlan.add cautious cautiousOptions).build 7 .execute .empty (.start ())).2) := rfl
  obtain ⟨turns, -, -, -, -, once⟩ := tagged "swap" rfl rfl [] 7 .execute .empty (.start ()) 12 _ ok
  exact ⟨added, _, turns, ok, once, rfl⟩

end Workflow

end CallWeave
