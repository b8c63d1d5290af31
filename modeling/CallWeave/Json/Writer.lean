import CallWeave.Json.Basic
import CallWeave.Decimal.Layout

/-!
# Writing JSON

Two texts of a document: `compact` without any blank, and `pretty` with two blanks a level and a line for
each item and member. Members are written in the order in which they stand. A float has the fewest digits
that read back, with `.0` when it is whole and an exponent below 10^-5 and from 10^16 on.
-/

namespace CallWeave.Json

/-- How floats are laid out. -/
def numberLayout : Decimal.Layout := ⟨.even, some (-4, 16), ".0", "+"⟩

/-- The text of a float; one that is not finite has none and is written as null. -/
def realText (x : Float) : String :=
  if x.isFinite then numberLayout.text x else "null"

/-- Four hexadecimal digits. -/
def fourDigits (n : Nat) : List Char :=
  let digit (k : Nat) : Char := if k < 10 then Char.ofNat (48 + k) else Char.ofNat (87 + k)
  [digit (n / 4096 % 16), digit (n / 256 % 16), digit (n / 16 % 16), digit (n % 16)]

/-- A character inside quotes. -/
def escapeChar (c : Char) : List Char :=
  if c = '"' then ['\\', '"']
  else if c = '\\' then ['\\', '\\']
  else if c = '\n' then ['\\', 'n']
  else if c = '\r' then ['\\', 'r']
  else if c = '\t' then ['\\', 't']
  else if c.toNat = 8 then ['\\', 'b']
  else if c.toNat = 12 then ['\\', 'f']
  else if c.toNat < 32 then '\\' :: 'u' :: fourDigits c.toNat
  else [c]

/-- A text in quotes. -/
def quote (text : String) : String :=
  String.ofList ('"' :: (text.toList.flatMap escapeChar) ++ ['"'])

mutual

/-- The text of a document without blanks. -/
def compact : Json → String
  | .null => "null"
  | .bool true => "true"
  | .bool false => "false"
  | .int i => toString i
  | .real x => realText x
  | .string s => quote s
  | .array items => "[" ++ compactItems items ++ "]"
  | .object members => "\x7b" ++ compactMembers members ++ "\x7d"
  | .unreadable => "null"

/-- Items with commas between them. -/
def compactItems : List Json → String
  | [] => ""
  | [item] => compact item
  | item :: rest => compact item ++ "," ++ compactItems rest

/-- Members with commas between them. -/
def compactMembers : List (String × Json) → String
  | [] => ""
  | [(name, member)] => quote name ++ ":" ++ compact member
  | (name, member) :: rest => quote name ++ ":" ++ compact member ++ "," ++ compactMembers rest

end

/-- A line break and the blanks of a level. -/
def newline (level : Nat) : String :=
  String.ofList ('\n' :: List.replicate (2 * level) ' ')

mutual

/-- The text of a document over several lines, its inner lines starting at `level + 1`. -/
def prettyAt : Json → (level : Nat) → String
  | .null, _ => "null"
  | .bool true, _ => "true"
  | .bool false, _ => "false"
  | .int i, _ => toString i
  | .real x, _ => realText x
  | .string s, _ => quote s
  | .array [], _ => "[]"
  | .array (item :: rest), level =>
    "[" ++ newline (level + 1) ++ prettyAt item (level + 1) ++ prettyItems rest (level + 1)
      ++ newline level ++ "]"
  | .object [], _ => "\x7b\x7d"
  | .object ((name, member) :: rest), level =>
    "\x7b" ++ newline (level + 1) ++ quote name ++ ": " ++ prettyAt member (level + 1)
      ++ prettyMembers rest (level + 1) ++ newline level ++ "\x7d"
  | .unreadable, _ => "null"

/-- Further items, each after a comma on a line of its own. -/
def prettyItems : List Json → (level : Nat) → String
  | [], _ => ""
  | item :: rest, level => "," ++ newline level ++ prettyAt item level ++ prettyItems rest level

/-- Further members, each after a comma on a line of its own. -/
def prettyMembers : List (String × Json) → (level : Nat) → String
  | [], _ => ""
  | (name, member) :: rest, level =>
    "," ++ newline level ++ quote name ++ ": " ++ prettyAt member level ++ prettyMembers rest level

end

/-- The text of a document over several lines. -/
def pretty (json : Json) : String := json.prettyAt 0

end CallWeave.Json
