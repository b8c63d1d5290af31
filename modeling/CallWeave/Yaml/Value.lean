import CallWeave.Decimal.Reader
import CallWeave.Json.Basic
import CallWeave.Yaml.Node

/-!
# Values

What plain scalars stand for. A plain scalar is null, a truth value or a number if it reads as one, and a text
otherwise; every other scalar is a text. Digits behind a leading zero are a text. Collections are read to at
most as many levels as asked for.
-/

namespace CallWeave.Yaml

/-- What a scalar stands for. -/
inductive Atom where
  | null
  | bool (value : Bool)
  /-- A number without a minus sign, below 2^128. -/
  | natural (value : Nat)
  /-- A number behind a minus sign, of 128 bits. -/
  | negative (size : Nat)
  | real (value : Float)
  | text (value : String)

/-- Whether a text is one of the spellings of null. -/
def isNullText (text : String) : Bool :=
  text == "null" || text == "Null" || text == "NULL" || text == "~"

/-- The truth value of a text. -/
def boolOf? (text : String) : Option Bool :=
  if text == "true" || text == "True" || text == "TRUE" then some true
  else if text == "false" || text == "False" || text == "FALSE" then some false
  else none

/-- The number that at least one digit of a base spells. -/
def digitsOf? (radix : Nat) (digits : List Char) : Option Nat :=
  if digits.isEmpty then none
  else digits.foldl (fun number c =>
    match number, Hex.digitValue? c with
    | some n, some d => if d < radix then some (n * radix + d) else none
    | _, _ => none) (some 0)

/-- Whether a text without its sign is digits behind a leading zero. -/
def hasLeadingZero : List Char → Bool
  | '0' :: d :: digits => (d :: digits).all Decimal.isDigit
  | _ => false

/-- The number that digits spell, with a prefix for another base than ten. -/
def unsignedOf? (text : List Char) : Option Nat :=
  match text with
  | '0' :: 'x' :: digits => digitsOf? 16 digits
  | '0' :: 'o' :: digits => digitsOf? 8 digits
  | '0' :: 'b' :: digits => digitsOf? 2 digits
  | digits => if hasLeadingZero digits then none else digitsOf? 10 digits

/-- The integer that a text is: either a number with an optional plus sign, or one behind a minus sign. -/
def integerOf? (text : List Char) : Option Atom :=
  match text with
  | '-' :: rest =>
    match unsignedOf? rest with
    | some n => if n ≤ Nat.pow 2 127 then some (.negative n) else none
    | none => none
  | '+' :: rest => bounded rest
  | rest => bounded rest
where
  /-- A number that fits 128 bits. -/
  bounded (digits : List Char) : Option Atom :=
    match unsignedOf? digits with
    | some n => if n < Nat.pow 2 128 then some (.natural n) else none
    | none => none

/-- The float that a text is. Only the spellings with a point stand for what is not finite. -/
def floatOf? (text : List Char) : Option Float :=
  let spelled := String.ofList text
  let unsigned := match text with
    | '+' :: rest => rest
    | rest => rest
  let bare := String.ofList unsigned
  if bare == ".inf" || bare == ".Inf" || bare == ".INF" then some (1.0 / 0.0)
  else if spelled == "-.inf" || spelled == "-.Inf" || spelled == "-.INF" then some (-1.0 / 0.0)
  else if spelled == ".nan" || spelled == ".NaN" || spelled == ".NAN" then some (0.0 / 0.0)
  else if unsigned.length < text.length && (unsigned.head? == some '+' || unsigned.head? == some '-') then none
  else (Decimal.parse? bare).filter Float.isFinite

/-- Whether a text is digits behind a leading zero, with or without a sign. -/
def isPaddedNumber (text : List Char) : Bool :=
  match text with
  | '-' :: rest => hasLeadingZero rest
  | '+' :: rest => hasLeadingZero rest
  | rest => hasLeadingZero rest

/-- What a plain scalar stands for. -/
def atomOf (text : String) : Atom :=
  if text.isEmpty || isNullText text then .null
  else match boolOf? text with
    | some b => .bool b
    | none =>
      match integerOf? text.toList with
      | some atom => atom
      | none =>
        if isPaddedNumber text.toList then .text text
        else match floatOf? text.toList with
          | some x => .real x
          | none => .text text

/-- What a scalar stands for. -/
def scalarAtom (text : String) (plain : Bool) : Atom :=
  if plain then atomOf text else .text text

/-- A value: null, a truth value, a number, a text or a collection. -/
inductive Value where
  | atom (atom : Atom)
  | list (items : List Value)
  | map (pairs : List (Value × Value))

/-- Whether an atom fits a value: no number of more than 64 bits. -/
def Atom.isSmall : Atom → Bool
  | .natural n => n < Nat.pow 2 64
  | .negative n => n ≤ Nat.pow 2 63
  | _ => true

/-- The value of a node of at most `depth` levels. -/
def Document.value? (document : Document) : (depth : Nat) → Node Nat → Option Value
  | 0, node =>
    match document.resolve node with
    | .scalar _ text plain =>
      let atom := scalarAtom text plain
      if atom.isSmall then some (.atom atom) else none
    | _ => none
  | depth + 1, node =>
    match document.resolve node with
    | .scalar _ text plain =>
      let atom := scalarAtom text plain
      if atom.isSmall then some (.atom atom) else none
    | .sequence _ items => (items.mapM fun item => value? document depth item).map .list
    | .mapping _ pairs =>
      (pairs.mapM fun (key, value) =>
        match value? document depth key, value? document depth value with
        | some key, some value => some (key, value)
        | _, _ => none).map .map
    | .alias _ => none

/-- A number as a JSON number; one that is not finite is null. -/
def Atom.toJson : Atom → Json
  | .null => .null
  | .bool b => .bool b
  | .natural n => .int n
  | .negative n => .int (-n)
  | .real x => if x.isFinite then .real x else .null
  | .text s => .string s

mutual

/-- A value in JSON, if all its names are texts; the last of equal names counts. -/
def Value.json? : Value → Option Json
  | .atom a => some a.toJson
  | .list items => (Value.jsonItems? items).map .array
  | .map pairs => (Value.jsonPairs? pairs).map fun members => .object (Json.sortMembers members)

/-- Values in JSON. -/
def Value.jsonItems? : List Value → Option (List Json)
  | [] => some []
  | item :: rest =>
    match item.json?, Value.jsonItems? rest with
    | some item, some items => some (item :: items)
    | _, _ => none

/-- Pairs as members. -/
def Value.jsonPairs? : List (Value × Value) → Option (List (String × Json))
  | [] => some []
  | (.atom (.text name), value) :: rest =>
    match value.json?, Value.jsonPairs? rest with
    | some value, some members => some ((name, value) :: members)
    | _, _ => none
  | _ :: _ => none

end

end CallWeave.Yaml
