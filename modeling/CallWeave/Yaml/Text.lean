/-!
# Characters of a YAML stream

A stream is a list of characters in which every line break is one character: the line feed, or one of the two
Unicode separators, which are kept apart because they survive folding. `stream?` brings a text into that form
and refuses characters that may not stand in a stream.
-/

namespace CallWeave.Yaml

/-- Where a character stands. -/
structure Place where
  index : Nat
  line : Nat
  column : Nat
deriving DecidableEq, Inhabited

/-- Whether a character breaks the line. -/
def isBreak (c : Char) : Bool := c == '\n' || c == '\u2028' || c == '\u2029'

/-- Whether a character is a space or a tab. -/
def isSpace (c : Char) : Bool := c == ' ' || c == '\t'

/-- Whether a character is a blank or breaks the line. -/
def isGap (c : Char) : Bool := isSpace c || isBreak c

/-- Whether the rest of a stream begins with a blank or a line break, or is empty. -/
def gapAhead : List Char → Bool
  | [] => true
  | c :: _ => isGap c

/-- The place behind a character. -/
def Place.after (p : Place) (c : Char) : Place :=
  if isBreak c then ⟨p.index + 1, p.line + 1, 0⟩ else ⟨p.index + 1, p.line, p.column + 1⟩

/-- The place behind some characters. -/
def Place.afterAll (p : Place) (text : List Char) : Place := text.foldl Place.after p

/-- Whether a character may stand in a stream. -/
def isAllowed (c : Char) : Bool :=
  let n := c.toNat
  n = 0x09 || n = 0x0a || n = 0x0d || (0x20 ≤ n && n ≤ 0x7e) || n = 0x85 || (0xa0 ≤ n && n ≤ 0xd7ff)
    || (0xe000 ≤ n && n ≤ 0xfffd) || 0x10000 ≤ n

/-- Line breaks of all spellings as one character each. -/
def unifyBreaks : List Char → List Char
  | [] => []
  | '\r' :: '\n' :: rest => '\n' :: unifyBreaks rest
  | '\r' :: rest => '\n' :: unifyBreaks rest
  | c :: rest => (if c = '\u0085' then '\n' else c) :: unifyBreaks rest

/-- The stream of a text; a byte order mark in front does not count. -/
def stream? (text : String) : Option (List Char) :=
  let chars := match text.toList with
    | '\ufeff' :: rest => rest
    | chars => chars
  if chars.all isAllowed then some (unifyBreaks chars) else none

/-- Whether a document marker, three equal characters and a gap, stands ahead at the start of a line. -/
def markerAhead (mark : Char) (text : List Char) (p : Place) : Bool :=
  p.column == 0 && text.take 3 == [mark, mark, mark] && gapAhead (text.drop 3)

/-- Whether either document marker stands ahead. -/
def anyMarkerAhead (text : List Char) (p : Place) : Bool :=
  markerAhead '-' text p || markerAhead '.' text p

/-- Blanks and line breaks inside a scalar, and what they fold to. -/
inductive Gap where
  | none
  /-- Blanks on one line, last first; they stand as they are. -/
  | spaces (reversed : List Char)
  /-- Line breaks, the first of them apart; blanks around them are dropped. -/
  | breaks (first : Option Char) (more : List Char)
deriving Inhabited

namespace Gap

/-- Adds a blank or a line break to a gap. -/
def add (gap : Gap) (c : Char) : Gap :=
  match gap with
  | .none => if isBreak c then .breaks (some c) [] else .spaces [c]
  | .spaces reversed => if isBreak c then .breaks (some c) [] else .spaces (c :: reversed)
  | .breaks first more => if isBreak c then .breaks first (more ++ [c]) else gap

/-- Whether the gap holds a line break. -/
def isBroken : Gap → Bool
  | .breaks _ _ => true
  | _ => false

/-- What a gap stands for: one line feed is a space and further ones stand for themselves. -/
def folded : Gap → List Char
  | .none => []
  | .spaces reversed => reversed.reverse
  | .breaks (some '\n') [] => [' ']
  | .breaks (some '\n') more => more
  | .breaks (some c) more => c :: more
  | .breaks Option.none more => more

end Gap

end CallWeave.Yaml
