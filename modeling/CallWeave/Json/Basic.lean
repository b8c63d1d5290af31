import CallWeave.Decimal.Scaled

/-!
# JSON documents

`Json` is a document as it stands in a text: integers of any size, members in the order in which they are
written, repeated names kept. A *value* is a document in normal form: integers that fit 64 bits, the others
turned into floats, the members of every object sorted by name with the last of equal names kept, and at
most 127 levels of nesting. `Json.value?` brings a document into that form, or has no answer.
-/

namespace CallWeave

/-- A JSON document. -/
inductive Json where
  | null
  | bool (value : Bool)
  /-- A number written without point and exponent. -/
  | int (value : Int)
  /-- A number written with a point or an exponent, and `-0`. -/
  | real (value : Float)
  | string (value : String)
  | array (items : List Json)
  | object (members : List (String × Json))
  /-- A well-formed literal that denotes nothing: a number beyond all floats, a text with half a surrogate
  pair. It may stand where nobody reads it. -/
  | unreadable
deriving Inhabited

namespace Json

/-- The object with some members. -/
abbrev ofMembers (members : List (String × Json)) : Json := .object members

/-- A text, or null where there is none. -/
def ofText? : Option String → Json
  | some text => .string text
  | none => .null

/-- A natural number as a JSON number. -/
def ofNat (n : Nat) : Json := .int n

/-- Whether an integer fits 64 bits, signed or unsigned. -/
def fits64 (i : Int) : Bool :=
  -(Nat.pow 2 63 : Int) ≤ i && i < Nat.pow 2 64

/-- The float of an integer, read from its leading digits. -/
def floatOfInt? (i : Int) : Option Float :=
  (Decimal.scaled? (toString i.natAbs).toList [] 0).map fun x => if i < 0 then -x else x

/-- Puts a member into sorted members, in place of one of the same name. -/
def insertMember (name : String) (value : Json) : List (String × Json) → List (String × Json)
  | [] => [(name, value)]
  | (other, old) :: rest =>
    if name < other then (name, value) :: (other, old) :: rest
    else if name = other then (name, value) :: rest
    else (other, old) :: insertMember name value rest

/-- Members sorted by name, the last of equal names kept. -/
def sortMembers (members : List (String × Json)) : List (String × Json) :=
  members.foldl (fun sorted (name, value) => insertMember name value sorted) []

mutual

/-- The value of a document, if it nests less than `depth` levels deep. -/
def valueAt? : Json → (depth : Nat) → Option Json
  | .null, _ => some .null
  | .bool b, _ => some (.bool b)
  | .int i, _ => if fits64 i then some (.int i) else (floatOfInt? i).map .real
  | .real x, _ => some (.real x)
  | .string s, _ => some (.string s)
  | .array items, depth => if depth ≤ 1 then none else (itemsAt? items (depth - 1)).map .array
  | .object members, depth =>
    if depth ≤ 1 then none else (membersAt? members (depth - 1)).map fun ms => .object (sortMembers ms)
  | .unreadable, _ => none

/-- The values of items. -/
def itemsAt? : List Json → (depth : Nat) → Option (List Json)
  | [], _ => some []
  | item :: rest, depth =>
    match valueAt? item depth, itemsAt? rest depth with
    | some v, some vs => some (v :: vs)
    | _, _ => none

/-- The values of members. -/
def membersAt? : List (String × Json) → (depth : Nat) → Option (List (String × Json))
  | [], _ => some []
  | (name, member) :: rest, depth =>
    match valueAt? member depth, membersAt? rest depth with
    | some v, some vs => some ((name, v) :: vs)
    | _, _ => none

end

/-- The value of a whole document. -/
def value? (json : Json) : Option Json := json.valueAt? 128

/-- The first member of a name. -/
def member? (json : Json) (name : String) : Option Json :=
  match json with
  | .object members => members.lookup name
  | _ => none

/-- A natural number below `bound`. -/
def natBelow? (bound : Nat) : Json → Option Nat
  | .int i => if 0 ≤ i ∧ i.toNat < bound then some i.toNat else none
  | _ => none

/-- A float, of any number. -/
def float? : Json → Option Float
  | .int i => floatOfInt? i
  | .real x => some x
  | _ => none

/-- A text. -/
def string? : Json → Option String
  | .string s => some s
  | _ => none

end Json

end CallWeave
