import CallWeave.Json.Basic

/-!
# The tokens of a JSON text

A machine reads a text one character at a time and gives out tokens. What it cannot read ends the tokens
with `bad`, so that a reader that stops earlier never sees it.
-/

namespace CallWeave.Json

/-- A token of a JSON text. -/
inductive Token where
  | openArray
  | closeArray
  | openObject
  | closeObject
  | comma
  | colon
  /-- A number or one of the three words. -/
  | literal (value : Json)
  /-- A text in quotes; none when its escapes denote half a surrogate pair. -/
  | text (value : Option String)
  | bad

/-- The characters of a text in quotes so far. -/
structure Quoted where
  /-- The last character first. -/
  reversed : List Char
  /-- No half surrogate pair so far. -/
  whole : Bool
  /-- The first half of a surrogate pair, when it was the last thing read. -/
  high : Option Nat

/-- What the machine is in the middle of. -/
inductive Scan where
  | between
  /-- A word, last character first. -/
  | word (reversed : List Char)
  /-- A number, last character first. -/
  | number (reversed : List Char)
  | quoted (so : Quoted)
  /-- Behind a backslash. -/
  | escape (so : Quoted)
  /-- Inside a four-digit escape: the digits still owed and the number so far. -/
  | digits (owed number : Nat) (so : Quoted)

/-- A text that has just begun. -/
def Quoted.start : Quoted := ⟨[], true, none⟩

/-- Takes a character that is no part of a surrogate pair. -/
def Quoted.push (so : Quoted) (c : Char) : Quoted :=
  ⟨c :: so.reversed, so.whole && so.high.isNone, none⟩

/-- Takes a 16-bit unit written as an escape. -/
def Quoted.pushUnit (so : Quoted) (unit : Nat) : Quoted :=
  match so.high with
  | some high =>
    if 0xDC00 ≤ unit ∧ unit < 0xE000 then
      ⟨Char.ofNat (0x10000 + (high - 0xD800) * 0x400 + (unit - 0xDC00)) :: so.reversed, so.whole, none⟩
    else ⟨so.reversed, false, none⟩
  | none =>
    if 0xD800 ≤ unit ∧ unit < 0xDC00 then ⟨so.reversed, so.whole, some unit⟩
    else if 0xDC00 ≤ unit ∧ unit < 0xE000 then ⟨so.reversed, false, none⟩
    else ⟨Char.ofNat unit :: so.reversed, so.whole, none⟩

/-- The finished text. -/
def Quoted.text? (so : Quoted) : Option String :=
  if so.whole && so.high.isNone then some (String.ofList so.reversed.reverse) else none

/-- Splits off the digits in front. -/
def spanDigits (text : List Char) : List Char × List Char :=
  (text.takeWhile Decimal.isDigit, text.dropWhile Decimal.isDigit)

/-- The number behind its sign: `whole`, then the fraction if there is a point, then the exponent. -/
def unsignedNumber? (negative : Bool) (text : List Char) : Option Json :=
  let (whole, afterWhole) := spanDigits text
  let wellFormed := match whole with
    | [] => false
    | ['0'] => true
    | c :: _ => c ≠ '0'
  let real (fraction : List Char) (exponent : Int) : Json :=
    match Decimal.scaled? whole fraction exponent with
    | some x => .real (if negative then -x else x)
    | none => .unreadable
  if !wellFormed then none
  else match afterWhole with
    | [] =>
      let n := Decimal.digitsNumber whole
      if negative ∧ n = 0 then some (.real (-0.0))
      else some (.int (if negative then -(n : Int) else n))
    | '.' :: rest =>
      let (fraction, afterFraction) := spanDigits rest
      if fraction.isEmpty then none
      else match afterFraction with
        | [] => some (real fraction 0)
        | mark :: exponent =>
          if mark = 'e' ∨ mark = 'E' then (Decimal.exponent? exponent).map (real fraction) else none
    | mark :: exponent =>
      if mark = 'e' ∨ mark = 'E' then (Decimal.exponent? exponent).map (real []) else none

/-- The token of a number's characters. -/
def numberToken (text : List Char) : Token :=
  let value := match text with
    | '-' :: rest => unsignedNumber? true rest
    | rest => unsignedNumber? false rest
  match value with
  | some json => .literal json
  | none => .bad

/-- The token of a word. -/
def wordToken (word : List Char) : Token :=
  if word = ['n', 'u', 'l', 'l'] then .literal .null
  else if word = ['t', 'r', 'u', 'e'] then .literal (.bool true)
  else if word = ['f', 'a', 'l', 's', 'e'] then .literal (.bool false)
  else .bad

/-- Whether a character may stand inside a number. -/
def inNumber (c : Char) : Bool :=
  Decimal.isDigit c || c = '-' || c = '+' || c = '.' || c = 'e' || c = 'E'

/-- Whether a character may stand inside a word. -/
def inWord (c : Char) : Bool := 'a' ≤ c && c ≤ 'z'

/-- What a character between tokens gives out and starts; none when nothing can start with it. -/
def begin? (c : Char) : Option (List Token × Scan) :=
  if c = ' ' ∨ c = '\n' ∨ c = '\t' ∨ c = '\r' then some ([], .between)
  else if c = '[' then some ([.openArray], .between)
  else if c = ']' then some ([.closeArray], .between)
  else if c.toNat = 0x7B then some ([.openObject], .between)
  else if c.toNat = 0x7D then some ([.closeObject], .between)
  else if c = ',' then some ([.comma], .between)
  else if c = ':' then some ([.colon], .between)
  else if c = '"' then some ([], .quoted .start)
  else if Decimal.isDigit c || c = '-' then some ([], .number [c])
  else if inWord c then some ([], .word [c])
  else none

/-- The character that an escape of one letter stands for. -/
def escapeOf? (c : Char) : Option Char :=
  if c = '"' ∨ c = '\\' ∨ c = '/' then some c
  else if c = 'b' then some (Char.ofNat 8)
  else if c = 'f' then some (Char.ofNat 12)
  else if c = 'n' then some '\n'
  else if c = 'r' then some '\r'
  else if c = 't' then some '\t'
  else none

/-- The value of a hexadecimal digit. -/
def hexDigit? (c : Char) : Option Nat :=
  if Decimal.isDigit c then some (c.toNat - 48)
  else if 'a' ≤ c ∧ c ≤ 'f' then some (c.toNat - 87)
  else if 'A' ≤ c ∧ c ≤ 'F' then some (c.toNat - 55)
  else none

/-- The tokens given out by a character, and what it leaves the machine in; none when it is refused. -/
def step (scan : Scan) (c : Char) : List Token × Option Scan :=
  let start (before : List Token) : List Token × Option Scan :=
    match begin? c with
    | some (tokens, next) => (before ++ tokens, some next)
    | none => (before, none)
  match scan with
  | .between => start []
  | .word reversed =>
    if inWord c then ([], some (.word (c :: reversed))) else start [wordToken reversed.reverse]
  | .number reversed =>
    if inNumber c then ([], some (.number (c :: reversed))) else start [numberToken reversed.reverse]
  | .quoted so =>
    if c = '"' then ([.text so.text?], some .between)
    else if c = '\\' then ([], some (.escape so))
    else if c.toNat < 32 then ([], none)
    else ([], some (.quoted (so.push c)))
  | .escape so =>
    if c = 'u' then ([], some (.digits 4 0 so))
    else match escapeOf? c with
      | some d => ([], some (.quoted (so.push d)))
      | none => ([], none)
  | .digits owed number so =>
    match hexDigit? c with
    | none => ([], none)
    | some d =>
      let number := number * 16 + d
      if owed ≤ 1 then ([], some (.quoted (so.pushUnit number)))
      else ([], some (.digits (owed - 1) number so))

/-- The tokens given out at the end of the text. -/
def finish : Scan → List Token
  | .between => []
  | .word reversed => [wordToken reversed.reverse]
  | .number reversed => [numberToken reversed.reverse]
  | _ => [.bad]

/-- The tokens of a text, read on from some point. -/
def tokensFrom : List Char → Scan → List Token
  | [], scan => finish scan
  | c :: rest, scan =>
    match step scan c with
    | (tokens, some next) => tokens ++ tokensFrom rest next
    | (tokens, none) => tokens ++ [.bad]

/-- The tokens of a text. -/
def tokens (text : String) : List Token := tokensFrom text.toList .between

end CallWeave.Json
