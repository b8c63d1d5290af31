import CallWeave.Json.Basic

/-!
# Records in JSON

A record with named fields is written as an object, or as an array of its fields in order. In an object, a
name that is no field is ignored and a field that stands twice is refused; in an array, there are no more
items than fields. `fields?` gives what stands for each field, none for those that are left out.
-/

namespace CallWeave.Json

/-- What stands for a field of an object; refused when it stands twice. -/
def field? (members : List (String × Json)) (name : String) : Option (Option Json) :=
  match members.filter (·.1 == name) with
  | [] => some none
  | [(_, json)] => some (some json)
  | _ => none

/-- The items of an array in the places of as many fields. -/
def placed? : List String → List Json → Option (List (Option Json))
  | [], [] => some []
  | [], _ :: _ => none
  | _ :: names, [] => (placed? names []).map (none :: ·)
  | _ :: names, item :: items => (placed? names items).map (some item :: ·)

/-- What stands for each field of a record. -/
def fields? (names : List String) : Json → Option (List (Option Json))
  | .object members => names.mapM (field? members)
  | .array items => placed? names items
  | _ => none

/-- What stands for each field of a record that may only be written as an object. -/
def namedFields? (names : List String) : Json → Option (List (Option Json))
  | .object members => names.mapM (field? members)
  | _ => none

/-- Reads a field that may be left out or null. -/
def optional? {α : Type} (read? : Json → Option α) : Option Json → Option (Option α)
  | none => some none
  | some .null => some none
  | some json => (read? json).map some

/-- Reads a field that may be left out, but not be null unless its reader takes null. -/
def defaulted? {α : Type} (read? : Json → Option α) (default : α) : Option Json → Option α
  | none => some default
  | some json => read? json

end CallWeave.Json
