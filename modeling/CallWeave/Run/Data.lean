import CallWeave.Json.Reader
import CallWeave.Json.Record
import CallWeave.Json.Writer

/-!
# Run data

What a caller hands to every step of a build: an optional slippage tolerance and any further entries by
name. Entries are kept sorted by name, so two run data with the same entries are equal. In JSON the
tolerance and the entries stand side by side in one object.
-/

namespace CallWeave

/-- Data that the caller supplies to every step. -/
structure RunData where
  /-- The tolerance in percent. -/
  slippage : Option Float
  /-- Further entries, sorted by name. -/
  extra : List (String × Json)
deriving Inhabited

namespace RunData

/-- No tolerance and no entries. -/
def empty : RunData := ⟨none, []⟩

/-- A tolerance alone. -/
def withSlippage (percent : Float) : RunData := ⟨some percent, []⟩

/-- Adds an entry, in place of one of the same name. -/
def insert (data : RunData) (name : String) (value : Json) : RunData :=
  ⟨data.slippage, Json.insertMember name value data.extra⟩

/-- The entry of a name. -/
def get? (data : RunData) (name : String) : Option Json := data.extra.lookup name

/-- The tolerance, if there is one, and the entries behind it. -/
def toJson (data : RunData) : Json :=
  .object ((match data.slippage with
    | some percent => [("slippage", .real percent)]
    | none => []) ++ data.extra)

/-- Reads run data from the value and the document that it is the value of: only an object, with the
tolerance named at most once. -/
def ofJson? (json : Json) : Option RunData :=
  match json.namedFields? ["slippage"], json.value? with
  | some [slippage], some (.object members) =>
    (Json.optional? Json.float? slippage).map fun percent =>
      ⟨percent, members.filter (·.1 ≠ "slippage")⟩
  | _, _ => none

/-- Reads run data from a text. -/
def parse? (text : String) : Option RunData := (Json.parse? text).bind ofJson?

end RunData

end CallWeave
