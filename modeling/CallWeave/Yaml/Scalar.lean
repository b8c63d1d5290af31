import CallWeave.Bytes.Hex
import CallWeave.Yaml.Text

/-!
# Scalars

Reading the three kinds of scalars: plain ones, which end where something else could begin; quoted ones, with
or without escapes; and block scalars, whose lines are kept or folded. Each reader gives the text of the scalar
and what stands behind it, or nothing when the scalar is broken.
-/

namespace CallWeave.Yaml

/-- The text of a scalar and what stands behind it. -/
structure ScannedScalar where
  text : List Char
  rest : List Char
  place : Place
  /-- Whether the reader has crossed a line break behind the scalar. -/
  brokenBehind : Bool

/-! ## Plain scalars -/

/-- Whether a character stands for a collection in flow style. -/
def isFlowMark (c : Char) : Bool := c == ',' || c == '[' || c == ']' || c == '\x7b' || c == '\x7d'

/-- Whether a plain scalar ends before a character. -/
def endsPlain (inFlow : Bool) (c : Char) (rest : List Char) : Bool :=
  (c == ':' && gapAhead rest) || (inFlow && isFlowMark c)

/-- A colon in flow style with a character behind it that would make it two things at once. -/
def isStrayColon (inFlow : Bool) (c : Char) (rest : List Char) : Bool :=
  inFlow && c == ':' && (match rest with
    | d :: _ => isFlowMark d || d == '?'
    | [] => false)

/-- Reads on in a plain scalar; `gap` is what has been passed since the last character of `reversed`. -/
def plainFrom (inFlow : Bool) (indent : Nat) : (gap : Gap) → (reversed : List Char) → List Char → Place →
    Option ScannedScalar
  | gap, reversed, [], p => some ⟨reversed.reverse, [], p, gap.isBroken⟩
  | gap, reversed, c :: rest, p =>
    if isSpace c then
      if gap.isBroken && decide (p.column < indent) && c == '\t' then none
      else plainFrom inFlow indent (gap.add c) reversed rest (p.after c)
    else if isBreak c then plainFrom inFlow indent (gap.add c) reversed rest (p.after c)
    else
      let stop : Option ScannedScalar := some ⟨reversed.reverse, c :: rest, p, gap.isBroken⟩
      let fresh := match gap with
        | .none => false
        | _ => true
      if fresh && !inFlow && decide (p.column < indent) then stop
      else if fresh && (anyMarkerAhead (c :: rest) p || c == '#') then stop
      else if isStrayColon inFlow c rest then none
      else if endsPlain inFlow c rest then stop
      else plainFrom inFlow indent .none (c :: (gap.folded.reverse ++ reversed)) rest (p.after c)

/-! ## Quoted scalars -/

/-- What an escape of one character stands for. -/
def escapeValue? (c : Char) : Option Char :=
  match c with
  | '0' => some '\x00'
  | 'a' => some '\x07'
  | 'b' => some '\x08'
  | 't' => some '\t'
  | '\t' => some '\t'
  | 'n' => some '\n'
  | 'v' => some '\x0b'
  | 'f' => some '\x0c'
  | 'r' => some '\r'
  | 'e' => some '\x1b'
  | ' ' => some ' '
  | '"' => some '"'
  | '/' => some '/'
  | '\\' => some '\\'
  | 'N' => some '\u0085'
  | '_' => some '\u00a0'
  | 'L' => some '\u2028'
  | 'P' => some '\u2029'
  | _ => none

/-- How many hexadecimal digits follow an escape. -/
def escapeDigits? (c : Char) : Option Nat :=
  match c with
  | 'x' => some 2
  | 'u' => some 4
  | 'U' => some 8
  | _ => none

/-- The character of a number, which is no half of a surrogate pair. -/
def charOf? (n : Nat) : Option Char :=
  if h : n.isValidChar then some (Char.ofNatAux n h) else none

/-- What the reader of a quoted scalar is in the middle of. -/
inductive QuotedState where
  | text
  | gap (gap : Gap)
  /-- Behind a backslash. -/
  | escape
  /-- Inside an escape with some more digits to come. -/
  | digits (more value : Nat)
  /-- Behind a quote that may be one of two. -/
  | quote

/-- Reads on in a quoted scalar. -/
def quotedFrom (single : Bool) : QuotedState → (reversed : List Char) → List Char → Place → Option ScannedScalar
  | .quote, reversed, rest, p =>
    match rest with
    | '\'' :: rest => quotedFrom single .text ('\'' :: reversed) rest (p.after '\'')
    | rest => some ⟨reversed.reverse, rest, p, false⟩
  | _, _, [], _ => none
  | .escape, reversed, c :: rest, p =>
    if isBreak c then quotedFrom single (.gap (.breaks none [])) reversed rest (p.after c)
    else match escapeValue? c, escapeDigits? c with
      | some value, _ => quotedFrom single .text (value :: reversed) rest (p.after c)
      | _, some (more + 1) => quotedFrom single (.digits more 0) reversed rest (p.after c)
      | _, _ => none
  | .digits more value, reversed, c :: rest, p =>
    match Hex.digitValue? c with
    | none => none
    | some d =>
      match more with
      | more + 1 => quotedFrom single (.digits more (value * 16 + d)) reversed rest (p.after c)
      | 0 =>
        match charOf? (value * 16 + d) with
        | some made => quotedFrom single .text (made :: reversed) rest (p.after c)
        | none => none
  | .text, reversed, c :: rest, p =>
    if isGap c then quotedFrom single (.gap (Gap.none.add c)) reversed rest (p.after c)
    else if c == '\'' && single then quotedFrom single .quote reversed rest (p.after c)
    else if c == '"' && !single then some ⟨reversed.reverse, rest, p.after c, false⟩
    else if c == '\\' && !single then quotedFrom single .escape reversed rest (p.after c)
    else quotedFrom single .text (c :: reversed) rest (p.after c)
  | .gap gap, reversed, c :: rest, p =>
    if isGap c then quotedFrom single (.gap (gap.add c)) reversed rest (p.after c)
    else if anyMarkerAhead (c :: rest) p then none
    else
      let reversed := gap.folded.reverse ++ reversed
      if c == '\'' && single then quotedFrom single .quote reversed rest (p.after c)
      else if c == '"' && !single then some ⟨reversed.reverse, rest, p.after c, false⟩
      else if c == '\\' && !single then quotedFrom single .escape reversed rest (p.after c)
      else quotedFrom single .text (c :: reversed) rest (p.after c)

/-! ## Block scalars -/

/-- What becomes of the line breaks at the end of a block scalar. -/
inductive Chomping where
  | strip
  | clip
  | keep
deriving DecidableEq

/-- The head of a block scalar: its chomping and its indentation, if that is given. -/
structure BlockHead where
  chomping : Chomping
  indent : Option Nat

/-- Reads the marks behind the indicator; the two kinds may stand in either order. -/
def blockMarks? (text : List Char) : Option (BlockHead × List Char) :=
  let chomping? (c : Char) : Option Chomping :=
    if c = '-' then some .strip else if c = '+' then some .keep else none
  let digit? (c : Char) : Option Nat := if '0' ≤ c ∧ c ≤ '9' then some (c.toNat - 48) else none
  match text with
  | [] => some (⟨.clip, none⟩, [])
  | c :: rest =>
    match chomping? c, digit? c with
    | some chomping, _ =>
      match rest.head?.bind digit? with
      | some 0 => none
      | some n => some (⟨chomping, some n⟩, rest.drop 1)
      | none => some (⟨chomping, none⟩, rest)
    | _, some 0 => none
    | _, some n =>
      match rest.head?.bind chomping? with
      | some chomping => some (⟨chomping, some n⟩, rest.drop 1)
      | none => some (⟨.clip, some n⟩, rest)
    | _, _ => some (⟨.clip, none⟩, text)

/-- Drops blanks and a comment; only a line break or the end may follow. -/
def headEnd? (text : List Char) : Option (List Char) :=
  let rest := match text.dropWhile isSpace with
    | '#' :: comment => comment.dropWhile (!isBreak ·)
    | rest => rest
  match rest with
  | [] => some []
  | c :: _ => if isBreak c then some rest else none

/-- What has been read of a block scalar. -/
structure BlockText where
  reversed : List Char
  /-- The break at the end of the last line. -/
  lastBreak : Option Char
  /-- The breaks of the empty lines behind it. -/
  emptyLines : List Char
  /-- Whether the last line begins with a blank. -/
  blankStart : Bool

namespace BlockText

/-- A new line begins with a character: the breaks before it are folded if both lines allow it. -/
def openLine (literal : Bool) (first : Char) (t : BlockText) : BlockText :=
  let blankStart := isSpace first
  let breaks :=
    if !literal && t.lastBreak == some '\n' && !t.blankStart && !blankStart then
      if t.emptyLines.isEmpty then [' '] else t.emptyLines
    else t.lastBreak.toList ++ t.emptyLines
  ⟨breaks.reverse ++ t.reversed, none, [], blankStart⟩

/-- The text with its last breaks chomped. -/
def finish (chomping : Chomping) (t : BlockText) : List Char :=
  match chomping with
  | .strip => t.reversed.reverse
  | .clip => t.reversed.reverse ++ t.lastBreak.toList
  | .keep => t.reversed.reverse ++ t.lastBreak.toList ++ t.emptyLines

end BlockText

/-- Reads on in a block scalar. Between lines, `widest` is the widest indentation so far while the indentation
is not known; `least` is the least that it can be. -/
def blockFrom (literal : Bool) (chomping : Chomping) (least : Nat) :
    (inLine : Bool) → (indent : Option Nat) → (widest : Nat) → BlockText → List Char → Place → Option ScannedScalar
  | _, _, _, t, [], p => some ⟨t.finish chomping, [], p, true⟩
  | true, indent, _, t, c :: rest, p =>
    if isBreak c then blockFrom literal chomping least false indent 0 { t with lastBreak := some c } rest (p.after c)
    else blockFrom literal chomping least true indent 0 { t with reversed := c :: t.reversed } rest (p.after c)
  | false, indent, widest, t, c :: rest, p =>
    let inside := match indent with
      | none => true
      | some n => decide (p.column < n)
    if inside && c == ' ' then blockFrom literal chomping least false indent widest t rest (p.after c)
    else if inside && c == '\t' then none
    else
      let widest := max widest p.column
      if isBreak c then
        blockFrom literal chomping least false indent widest
          { t with emptyLines := t.emptyLines ++ [c] } rest (p.after c)
      else
        let known := indent.getD (max widest least)
        if p.column = known then
          let opened := t.openLine literal c
          blockFrom literal chomping least true (some known) 0 { opened with reversed := c :: opened.reversed } rest
            (p.after c)
        else some ⟨t.finish chomping, c :: rest, p, true⟩

/-- Reads a block scalar behind its indicator; `parent` is the indentation of the block around it, if any. -/
def blockScalar (literal : Bool) (parent : Option Nat) (text : List Char) (p : Place) : Option ScannedScalar :=
  match blockMarks? text with
  | none => none
  | some (head, rest) =>
    match headEnd? rest with
    | none => none
    | some body =>
      let least := (parent.map (· + 1)).getD 1
      let indent := head.indent.map fun n => (parent.getD 0) + n
      let start := p.afterAll (text.take (text.length - body.length))
      match body with
      | [] => some ⟨[], [], start, true⟩
      | c :: lines =>
        blockFrom literal head.chomping (max least 1) false indent 0 ⟨[], none, [], false⟩ lines (start.after c)

end CallWeave.Yaml
