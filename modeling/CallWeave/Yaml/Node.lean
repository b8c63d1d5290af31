import CallWeave.Yaml.Token

/-!
# Nodes

A document as a tree of scalars, sequences and mappings, in which an alias stands for a node that bears an
anchor. `document?` reads the one document of a stream. Afterwards every alias is bound to the latest anchor of
its name that begins before it; an alias without any is refused.
-/

namespace CallWeave.Yaml

/-- A node whose aliases are given by `ρ`. -/
inductive Node (ρ : Type) where
  | scalar (anchor : Option String) (text : String) (plain : Bool)
  | sequence (anchor : Option String) (items : List (Node ρ))
  | mapping (anchor : Option String) (pairs : List (Node ρ × Node ρ))
  | alias (target : ρ)
deriving Inhabited

/-- What stands where nothing is written. -/
def Node.empty {ρ : Type} : Node ρ := .scalar none "" true

/-! ## Trees from tokens -/

/-- The anchor in front of a node, whether anything stands in front of it, and the rest. -/
def properties : List Token → Option String × Bool × List Token
  | .anchor name :: .tag :: rest => (some name, true, rest)
  | .anchor name :: rest => (some name, true, rest)
  | .tag :: .anchor name :: rest => (some name, true, rest)
  | .tag :: rest => (none, true, rest)
  | rest => (none, false, rest)

/-- Whether a block entry, key or value ends before the next token. -/
def endsBlockPart (inSequence : Bool) : List Token → Bool
  | .blockEntry :: _ => inSequence
  | .key :: _ | .value :: _ => true
  | .blockEnd :: _ => true
  | _ => false

/-- Whether the next token ends a part of a collection in flow style. -/
def endsFlowPart (closing : Token) : List Token → Bool
  | token :: _ => token == .flowEntry || token == closing
  | [] => false

/-- Whether the next token is the mark of a value. -/
def valueAhead : List Token → Bool
  | .value :: _ => true
  | _ => false

/-- Passes the comma before an item that is not the first. -/
def passComma (first : Bool) (tokens : List Token) : Option (List Token) :=
  if first then some tokens
  else match tokens with
    | .flowEntry :: rest => some rest
    | _ => none

mutual

/-- Reads a node. In a `block` position block collections may begin; in an `indentless` one a sequence may
stand without tokens of its own around it. -/
def node? : (fuel : Nat) → (block indentless : Bool) → List Token → Option (Node String × List Token)
  | 0, _, _, _ => none
  | fuel + 1, block, indentless, tokens =>
    match tokens with
    | .alias name :: rest => some (.alias name, rest)
    | _ =>
      let (anchor, marked, rest) := properties tokens
      let missing : Option (Node String × List Token) :=
        if marked then some (.scalar anchor "" true, rest) else none
      match rest with
      | .blockEntry :: _ =>
        if indentless then
          (looseItems? fuel rest).map fun (items, rest) => (.sequence anchor items, rest)
        else missing
      | .scalar text plain :: rest => some (.scalar anchor text plain, rest)
      | .flowSequenceStart :: rest =>
        (flowItems? fuel true rest).map fun (items, rest) => (.sequence anchor items, rest)
      | .flowMappingStart :: rest =>
        (flowPairs? fuel true rest).map fun (pairs, rest) => (.mapping anchor pairs, rest)
      | .blockSequenceStart :: rest =>
        if block then (blockItems? fuel rest).map fun (items, rest) => (.sequence anchor items, rest)
        else missing
      | .blockMappingStart :: rest =>
        if block then (blockPairs? fuel rest).map fun (pairs, rest) => (.mapping anchor pairs, rest)
        else missing
      | _ => missing

/-- Reads the entries of a block sequence and its end. -/
def blockItems? : (fuel : Nat) → List Token → Option (List (Node String) × List Token)
  | 0, _ => none
  | fuel + 1, tokens =>
    match tokens with
    | .blockEnd :: rest => some ([], rest)
    | .blockEntry :: rest =>
      let item := match rest with
        | .blockEntry :: _ | .blockEnd :: _ => some (Node.empty, rest)
        | _ => node? fuel true false rest
      match item with
      | none => none
      | some (item, rest) => (blockItems? fuel rest).map fun (items, rest) => (item :: items, rest)
    | _ => none

/-- Reads the entries of a sequence that stands at the column of the mapping around it. -/
def looseItems? : (fuel : Nat) → List Token → Option (List (Node String) × List Token)
  | 0, _ => none
  | fuel + 1, tokens =>
    match tokens with
    | .blockEntry :: rest =>
      match (if endsBlockPart true rest then some (Node.empty, rest) else node? fuel true false rest) with
      | none => none
      | some (item, rest) => (looseItems? fuel rest).map fun (items, rest) => (item :: items, rest)
    | rest => some ([], rest)

/-- Reads the pairs of a block mapping and its end. -/
def blockPairs? : (fuel : Nat) → List Token → Option (List (Node String × Node String) × List Token)
  | 0, _ => none
  | fuel + 1, tokens =>
    match tokens with
    | .blockEnd :: rest => some ([], rest)
    | .key :: rest =>
      match (if endsBlockPart false rest then some (Node.empty, rest) else node? fuel true true rest) with
      | none => none
      | some (key, rest) =>
        let value := match rest with
          | .value :: rest => if endsBlockPart false rest then some (Node.empty, rest) else node? fuel true true rest
          | rest => some (Node.empty, rest)
        match value with
        | none => none
        | some (value, rest) => (blockPairs? fuel rest).map fun (pairs, rest) => ((key, value) :: pairs, rest)
    | _ => none

/-- Reads the value of a pair in flow style, if there is one. -/
def flowValue? : (fuel : Nat) → (closing : Token) → List Token → Option (Node String × List Token)
  | 0, _, _ => none
  | fuel + 1, closing, tokens =>
    match tokens with
    | .value :: rest => if endsFlowPart closing rest then some (Node.empty, rest) else node? fuel false false rest
    | rest => some (Node.empty, rest)

/-- Reads the items of a sequence in flow style and its end. A pair may stand as an item. -/
def flowItems? : (fuel : Nat) → (first : Bool) → List Token → Option (List (Node String) × List Token)
  | 0, _, _ => none
  | fuel + 1, first, tokens =>
    match tokens with
    | .flowSequenceEnd :: rest => some ([], rest)
    | _ =>
      match passComma first tokens with
      | none => none
      | some (.flowSequenceEnd :: rest) => some ([], rest)
      | some (.key :: rest) =>
        let key := if valueAhead rest || endsFlowPart .flowSequenceEnd rest then some (Node.empty, rest.drop 1)
          else node? fuel false false rest
        match key with
        | none => none
        | some (key, rest) =>
          match flowValue? fuel .flowSequenceEnd rest with
          | none => none
          | some (value, rest) =>
            (flowItems? fuel false rest).map fun (items, rest) => (.mapping none [(key, value)] :: items, rest)
      | some rest =>
        match node? fuel false false rest with
        | none => none
        | some (item, rest) => (flowItems? fuel false rest).map fun (items, rest) => (item :: items, rest)

/-- Reads the pairs of a mapping in flow style and its end. A key may stand without a value. -/
def flowPairs? : (fuel : Nat) → (first : Bool) → List Token → Option (List (Node String × Node String) × List Token)
  | 0, _, _ => none
  | fuel + 1, first, tokens =>
    match tokens with
    | .flowMappingEnd :: rest => some ([], rest)
    | _ =>
      match passComma first tokens with
      | none => none
      | some (.flowMappingEnd :: rest) => some ([], rest)
      | some (.key :: rest) =>
        let key := if valueAhead rest || endsFlowPart .flowMappingEnd rest then some (Node.empty, rest)
          else node? fuel false false rest
        match key with
        | none => none
        | some (key, rest) =>
          match flowValue? fuel .flowMappingEnd rest with
          | none => none
          | some (value, rest) => (flowPairs? fuel false rest).map fun (pairs, rest) => ((key, value) :: pairs, rest)
      | some rest =>
        match node? fuel false false rest with
        | none => none
        | some (key, rest) => (flowPairs? fuel false rest).map fun (pairs, rest) => ((key, Node.empty) :: pairs, rest)

end

/-- Passes directives. -/
def passDirectives : List Token → List Token
  | .directive :: rest => passDirectives rest
  | rest => rest

/-- Whether only ends of documents are left. -/
def onlyEnds (tokens : List Token) : Bool := tokens.all (· == .documentEnd)

/-- The root of the one document that tokens make; none when they make no document at all. -/
def root? (tokens : List Token) : Option (Option (Node String)) :=
  let fuel := 3 * tokens.length + 3
  let whole (body : List Token) : Option (Option (Node String)) :=
    match node? fuel true false body with
    | some (node, rest) => if onlyEnds rest then some (some node) else none
    | none => none
  match tokens with
  | [] => some none
  | .directive :: _ | .documentStart :: _ =>
    match passDirectives tokens with
    | .documentStart :: body => if onlyEnds body then some (some .empty) else whole body
    | _ => none
  | body => whole body

/-! ## Binding aliases -/

/-- The anchors met so far: the number that each name stands for now. -/
abbrev Anchors := List (String × Nat)

/-- Numbers an anchor and lets its name stand for that number. -/
def Anchors.bind (anchors : Anchors) : Option String → Option Nat × Anchors
  | none => (none, anchors)
  | some name =>
    let number := anchors.length
    (some number, (name, number) :: anchors.filter (·.1 ≠ name))

/-- The nodes that bear anchors, in the order in which they begin. -/
abbrev Targets := List (Nat × Node Nat)

/-- The target that a node with an anchor is. -/
def target (number : Option Nat) (node : Node Nat) : Targets :=
  match number with
  | some n => [(n, node)]
  | none => []

mutual

/-- Binds the aliases of a node. -/
def bind? : Node String → Anchors → Option (Node Nat × Targets × Anchors)
  | .scalar anchor text plain, anchors =>
    let (number, anchors) := anchors.bind anchor
    let node := .scalar none text plain
    some (node, target number node, anchors)
  | .sequence anchor items, anchors =>
    let (number, anchors) := anchors.bind anchor
    (bindItems? items anchors).map fun (items, targets, anchors) =>
      (.sequence none items, target number (.sequence none items) ++ targets, anchors)
  | .mapping anchor pairs, anchors =>
    let (number, anchors) := anchors.bind anchor
    (bindPairs? pairs anchors).map fun (pairs, targets, anchors) =>
      (.mapping none pairs, target number (.mapping none pairs) ++ targets, anchors)
  | .alias name, anchors => (anchors.lookup name).map fun number => (.alias number, [], anchors)

/-- Binds the aliases of items in order. -/
def bindItems? : List (Node String) → Anchors → Option (List (Node Nat) × Targets × Anchors)
  | [], anchors => some ([], [], anchors)
  | item :: rest, anchors =>
    match bind? item anchors with
    | none => none
    | some (item, targets, anchors) =>
      (bindItems? rest anchors).map fun (items, more, anchors) => (item :: items, targets ++ more, anchors)

/-- Binds the aliases of pairs in order. -/
def bindPairs? : List (Node String × Node String) → Anchors →
    Option (List (Node Nat × Node Nat) × Targets × Anchors)
  | [], anchors => some ([], [], anchors)
  | (key, value) :: rest, anchors =>
    match bind? key anchors with
    | none => none
    | some (key, ofKey, anchors) =>
      match bind? value anchors with
      | none => none
      | some (value, ofValue, anchors) =>
        (bindPairs? rest anchors).map fun (pairs, more, anchors) =>
          ((key, value) :: pairs, ofKey ++ ofValue ++ more, anchors)

end

/-- A document with its aliases bound. -/
structure Document where
  /-- Missing when the stream holds nothing. -/
  root : Option (Node Nat)
  targets : Targets

/-- The one document of a text. -/
def document? (text : String) : Option Document :=
  match ((stream? text).bind tokens?).bind root? with
  | none => none
  | some none => some ⟨none, []⟩
  | some (some root) => (bind? root []).map fun (root, targets, _) => ⟨some root, targets⟩

/-- The node that a number stands for; of several, the one that begins last. -/
def Document.target (document : Document) (number : Nat) : Node Nat :=
  (document.targets.reverse.lookup number).getD .empty

/-- A node with an alias replaced by what it stands for. -/
def Document.resolve (document : Document) : Node Nat → Node Nat
  | .alias number => document.target number
  | node => node

end CallWeave.Yaml
