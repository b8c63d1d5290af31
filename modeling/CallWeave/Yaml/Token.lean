import CallWeave.Yaml.Scalar

/-!
# Tokens

The marks and scalars of a stream, with the structure that indentation gives made explicit: tokens say where a
block collection begins and ends and which scalar is a key. Whether something is a key shows only at the colon
behind it, so the reader remembers for each level where a key could have begun, and puts the tokens in there
when the colon comes. A key stands on one line and takes at most 1024 characters.
-/

namespace CallWeave.Yaml

/-- A token. -/
inductive Token where
  | directive
  | documentStart
  | documentEnd
  | blockSequenceStart
  | blockMappingStart
  | blockEnd
  | flowSequenceStart
  | flowSequenceEnd
  | flowMappingStart
  | flowMappingEnd
  | blockEntry
  | flowEntry
  | key
  | value
  | alias (name : String)
  | anchor (name : String)
  | tag
  | scalar (text : String) (plain : Bool)
deriving DecidableEq, Inhabited

/-- Where a key could have begun. -/
structure PossibleKey where
  /-- How many tokens stood before it. -/
  number : Nat
  place : Place
  /-- Whether nothing but a key can stand there. -/
  required : Bool

/-- The reader between two tokens. -/
structure Scanner where
  rest : List Char
  place : Place
  /-- The tokens so far, last first. -/
  reversed : List Token
  /-- How many tokens there are. -/
  count : Nat
  /-- The possible key of each level, innermost first; the outermost level is that of blocks. -/
  keys : List (Option PossibleKey)
  /-- The columns of the open block collections, innermost first. -/
  indents : List Nat
  /-- Whether a key could begin here. -/
  keyAllowed : Bool

namespace Scanner

/-- The reader at the start of a stream. -/
def start (stream : List Char) : Scanner := ⟨stream, ⟨0, 0, 0⟩, [], 0, [none], [], true⟩

/-- Whether the reader is inside a collection in flow style. -/
def inFlow (s : Scanner) : Bool := 1 < s.keys.length

/-- The column of the innermost block collection. -/
def indent (s : Scanner) : Option Nat := s.indents.head?

/-- Adds a token. -/
def emit (s : Scanner) (token : Token) : Scanner :=
  { s with reversed := token :: s.reversed, count := s.count + 1 }

/-- Puts a token in behind the first `number` tokens. -/
def insertAt (s : Scanner) (number : Nat) (token : Token) : Scanner :=
  let back := s.count - number
  { s with reversed := s.reversed.take back ++ token :: s.reversed.drop back, count := s.count + 1 }

/-- Passes some characters. -/
def pass (s : Scanner) (n : Nat) : Scanner :=
  { s with rest := s.rest.drop n, place := s.place.afterAll (s.rest.take n) }

/-- Goes on behind a scalar. -/
def behind (s : Scanner) (scanned : ScannedScalar) : Scanner :=
  { s with rest := scanned.rest, place := scanned.place }

/-- Passes blanks, comments and line breaks. Tabs count as blanks only where no key could begin; a byte order
mark is passed at the start of a line. -/
def skipFrom (inFlow : Bool) : (allowed inComment : Bool) → List Char → Place → Bool × List Char × Place
  | allowed, _, [], p => (allowed, [], p)
  | allowed, inComment, c :: rest, p =>
    if isBreak c then skipFrom inFlow (allowed || !inFlow) false rest (p.after c)
    else if inComment then skipFrom inFlow allowed true rest (p.after c)
    else if c == ' ' || (c == '\t' && (inFlow || !allowed)) || (c == '\ufeff' && p.column == 0) then
      skipFrom inFlow allowed false rest (p.after c)
    else if c == '#' then skipFrom inFlow allowed true rest (p.after c)
    else (allowed, c :: rest, p)

/-- Passes everything up to the next token. -/
def skip (s : Scanner) : Scanner :=
  let (allowed, rest, place) := skipFrom s.inFlow s.keyAllowed false s.rest s.place
  { s with rest := rest, place := place, keyAllowed := allowed }

/-! ## Keys -/

/-- Whether a possible key has become impossible: the line has ended or it is too long. -/
def isStale (p : Place) (key : PossibleKey) : Bool :=
  key.place.line < p.line || key.place.index + 1024 < p.index

/-- Forgets keys that have become impossible; a required one must not. -/
def dropStale? (s : Scanner) : Option Scanner :=
  let stale (key : Option PossibleKey) : Bool := (key.map (isStale s.place)).getD false
  if s.keys.any fun key => stale key && (key.map (·.required)).getD false then none
  else some { s with keys := s.keys.map fun key => if stale key then none else key }

/-- Forgets the possible key of the innermost level; a required one must not be. -/
def forgetKey? (s : Scanner) : Option Scanner :=
  match s.keys with
  | some key :: outer => if key.required then none else some { s with keys := none :: outer }
  | _ => some s

/-- Remembers that a key could begin here. -/
def markKey? (s : Scanner) : Option Scanner :=
  if s.keyAllowed then
    let key : PossibleKey := ⟨s.count, s.place, !s.inFlow && s.indent == some s.place.column⟩
    s.forgetKey?.map fun s => { s with keys := some key :: s.keys.drop 1 }
  else some s

/-! ## Block collections -/

/-- Whether a column lies inside the innermost block collection. -/
def isDeeper (s : Scanner) (column : Nat) : Bool :=
  match s.indent with
  | none => true
  | some n => n < column

/-- Opens a block collection at a column, unless one of that column is open. -/
def openBlock (s : Scanner) (column number : Nat) (token : Token) : Scanner :=
  if !s.inFlow && s.isDeeper column then
    { s.insertAt number token with indents := column :: s.indents }
  else s

/-- The tokens that close the block collections right of a column, and the columns that stay open. -/
def closed (column : Option Nat) : List Nat → Nat × List Nat
  | [] => (0, [])
  | n :: outer =>
    if column.all (· < n) then
      let (closing, stillOpen) := closed column outer
      (closing + 1, stillOpen)
    else (0, n :: outer)

/-- Closes the block collections right of a column, or all without one. -/
def closeBlocks (s : Scanner) (column : Option Nat) : Scanner :=
  if s.inFlow then s
  else
    let (closing, stillOpen) := closed column s.indents
    { s with
      reversed := List.replicate closing .blockEnd ++ s.reversed, count := s.count + closing, indents := stillOpen }

/-! ## Single tokens -/

/-- A document marker. -/
def marker? (s : Scanner) (token : Token) : Option Scanner :=
  (s.closeBlocks none).forgetKey?.map fun s => ({ s with keyAllowed := false }.pass 3).emit token

/-- The start of a collection in flow style. -/
def openFlow? (s : Scanner) (token : Token) : Option Scanner :=
  s.markKey?.map fun s => ({ s with keys := none :: s.keys, keyAllowed := true }.pass 1).emit token

/-- The end of a collection in flow style. -/
def closeFlow? (s : Scanner) (token : Token) : Option Scanner :=
  s.forgetKey?.map fun s =>
    let keys := if s.inFlow then s.keys.drop 1 else s.keys
    ({ s with keys := keys, keyAllowed := false }.pass 1).emit token

/-- A comma in flow style. -/
def flowEntry? (s : Scanner) : Option Scanner :=
  s.forgetKey?.map fun s => ({ s with keyAllowed := true }.pass 1).emit .flowEntry

/-- The hyphen of an entry. -/
def blockEntry? (s : Scanner) : Option Scanner :=
  if !s.inFlow && !s.keyAllowed then none
  else (s.openBlock s.place.column s.count .blockSequenceStart).forgetKey?.map fun s =>
    ({ s with keyAllowed := true }.pass 1).emit .blockEntry

/-- The question mark of a key. -/
def key? (s : Scanner) : Option Scanner :=
  if !s.inFlow && !s.keyAllowed then none
  else (s.openBlock s.place.column s.count .blockMappingStart).forgetKey?.map fun s =>
    ({ s with keyAllowed := !s.inFlow }.pass 1).emit .key

/-- The colon of a value. What could have been a key before it is one. -/
def value? (s : Scanner) : Option Scanner :=
  match s.keys with
  | some key :: outer =>
    let s := (s.insertAt key.number .key).openBlock key.place.column key.number .blockMappingStart
    some (({ s with keys := none :: outer, keyAllowed := false }.pass 1).emit .value)
  | _ =>
    if !s.inFlow && !s.keyAllowed then none
    else
      let s := s.openBlock s.place.column s.count .blockMappingStart
      some (({ s with keyAllowed := !s.inFlow }.pass 1).emit .value)

/-- Whether a character may stand in a name. -/
def isNameChar (c : Char) : Bool := c.isAlphanum || c == '_' || c == '-'

/-- Whether a name may end before the rest of a stream. -/
def endsName : List Char → Bool
  | [] => true
  | c :: _ => isGap c || "?:,]\x7d%@\x60".toList.contains c

/-- The name of an anchor or an alias. -/
def name? (s : Scanner) (token : String → Token) : Option Scanner :=
  s.markKey?.bind fun s =>
    let name := (s.rest.drop 1).takeWhile isNameChar
    if name.isEmpty || !endsName (s.rest.drop (1 + name.length)) then none
    else some (({ s with keyAllowed := false }.pass (1 + name.length)).emit (token (String.ofList name)))

/-- A tag; what it says is not looked at. -/
def tag? (s : Scanner) : Option Scanner :=
  s.markKey?.bind fun s =>
    let isTagChar (c : Char) : Bool := !isGap c && !(s.inFlow && isFlowMark c)
    let tag := s.rest.takeWhile isTagChar
    some (({ s with keyAllowed := false }.pass tag.length).emit .tag)

/-- A block scalar. -/
def blockScalar? (s : Scanner) (literal : Bool) : Option Scanner :=
  s.forgetKey?.bind fun s =>
    (blockScalar literal s.indent (s.rest.drop 1) (s.place.afterAll (s.rest.take 1))).map fun scanned =>
      ({ s with keyAllowed := true }.behind scanned).emit (.scalar (String.ofList scanned.text) false)

/-- A quoted scalar. -/
def quoted? (s : Scanner) (single : Bool) : Option Scanner :=
  s.markKey?.bind fun s =>
    (quotedFrom single .text [] (s.rest.drop 1) (s.place.afterAll (s.rest.take 1))).map fun scanned =>
      ({ s with keyAllowed := false }.behind scanned).emit (.scalar (String.ofList scanned.text) false)

/-- A plain scalar. -/
def plain? (s : Scanner) : Option Scanner :=
  s.markKey?.bind fun s =>
    (plainFrom s.inFlow ((s.indent.map (· + 1)).getD 0) .none [] s.rest s.place).map fun scanned =>
      ({ s with keyAllowed := scanned.brokenBehind }.behind scanned).emit (.scalar (String.ofList scanned.text) true)

/-- A directive: only one that gives a version is taken. -/
def directive? (s : Scanner) : Option Scanner :=
  (s.closeBlocks none).forgetKey?.bind fun s =>
    let line := s.rest.takeWhile (!isBreak ·)
    let said := line.takeWhile (· ≠ '#')
    if said == "%YAML 1.1".toList || said == "%YAML 1.2".toList then
      some (({ s with keyAllowed := false }.pass line.length).emit .directive)
    else none

/-- Whether a plain scalar can begin with a character. -/
def startsPlain (inFlow : Bool) (c : Char) (rest : List Char) : Bool :=
  (!isGap c && !"-?:,[]\x7b\x7d#&*!|>'\"%@\x60".toList.contains c)
    || (c == '-' && !(match rest with
      | d :: _ => isSpace d
      | [] => false))
    || (!inFlow && (c == '?' || c == ':') && !gapAhead rest)

/-- Reads one token. -/
def token? (s : Scanner) (c : Char) (rest : List Char) : Option Scanner :=
  if s.place.column == 0 && c == '%' then s.directive?
  else if markerAhead '-' s.rest s.place then s.marker? .documentStart
  else if markerAhead '.' s.rest s.place then s.marker? .documentEnd
  else if c == '[' then s.openFlow? .flowSequenceStart
  else if c == '\x7b' then s.openFlow? .flowMappingStart
  else if c == ']' then s.closeFlow? .flowSequenceEnd
  else if c == '\x7d' then s.closeFlow? .flowMappingEnd
  else if c == ',' then s.flowEntry?
  else if c == '-' && gapAhead rest then s.blockEntry?
  else if c == '?' && (s.inFlow || gapAhead rest) then s.key?
  else if c == ':' && (s.inFlow || gapAhead rest) then s.value?
  else if c == '*' then s.name? .alias
  else if c == '&' then s.name? .anchor
  else if c == '!' then s.tag?
  else if c == '|' && !s.inFlow then s.blockScalar? true
  else if c == '>' && !s.inFlow then s.blockScalar? false
  else if c == '\'' then s.quoted? true
  else if c == '"' then s.quoted? false
  else if startsPlain s.inFlow c rest then s.plain?
  else none

/-- The end of the stream: all block collections end, and no key may be left waiting for its colon. -/
def finish? (s : Scanner) : Option (List Token) :=
  (s.closeBlocks none).forgetKey?.map fun s => s.reversed.reverse

/-- Reads tokens up to the end. Each takes at least one character, so `fuel` need not exceed their number. -/
def run : (fuel : Nat) → Scanner → Option (List Token)
  | 0, _ => none
  | fuel + 1, s =>
    match s.skip.dropStale? with
    | none => none
    | some s =>
      match s.rest with
      | [] => s.finish?
      | c :: rest =>
        match (s.closeBlocks (some s.place.column)).token? c rest with
        | none => none
        | some s => run fuel s

end Scanner

/-- The tokens of a stream, if it is well formed. -/
def tokens? (stream : List Char) : Option (List Token) :=
  Scanner.run (stream.length + 1) (.start stream)

end CallWeave.Yaml
