import CallWeave.Json.Token

/-!
# Reading JSON

Documents are read from tokens with a stack of the arrays and objects that are still open. `read?` reads the
document at the front of a text and leaves the tokens behind it; `parse?` wants nothing behind it.
-/

namespace CallWeave.Json

/-- An array or object that is still open. -/
inductive Frame where
  /-- The items so far, last first. -/
  | items (reversed : List Json)
  /-- The members so far, last first, and the name whose value is being read. -/
  | members (reversed : List (String × Json)) (name : String)

/-- What is read next. -/
inductive Expect where
  /-- A value; with `closable`, also the end of the array that has just begun. -/
  | value (closable : Bool)
  /-- The name of a member of an object with some members; with `closable`, also the object's end. -/
  | name (reversed : List (String × Json)) (closable : Bool)
  /-- The colon behind a name. -/
  | colon (reversed : List (String × Json)) (name : String)
  /-- A document is complete: the end of the text, or what continues the innermost open frame. -/
  | after (json : Json)

/-- Reads on with some frames open. -/
def readTokens : List Token → List Frame → Expect → Option (Json × List Token)
  | tokens, [], .after json => some (json, tokens)
  | [], _, _ => none
  | token :: rest, frames, .value closable =>
    match token with
    | .literal json => readTokens rest frames (.after json)
    | .text (some text) => readTokens rest frames (.after (.string text))
    | .text none => readTokens rest frames (.after .unreadable)
    | .openArray => readTokens rest (.items [] :: frames) (.value true)
    | .openObject => readTokens rest frames (.name [] true)
    | .closeArray =>
      match closable, frames with
      | true, .items reversed :: outer => readTokens rest outer (.after (.array reversed.reverse))
      | _, _ => none
    | _ => none
  | token :: rest, frames, .name reversed closable =>
    match token with
    | .text (some name) => readTokens rest frames (.colon reversed name)
    | .closeObject =>
      if closable then readTokens rest frames (.after (.object reversed.reverse)) else none
    | _ => none
  | token :: rest, frames, .colon reversed name =>
    match token with
    | .colon => readTokens rest (.members reversed name :: frames) (.value false)
    | _ => none
  | token :: rest, .items reversed :: frames, .after json =>
    match token with
    | .comma => readTokens rest (.items (json :: reversed) :: frames) (.value false)
    | .closeArray => readTokens rest frames (.after (.array (json :: reversed).reverse))
    | _ => none
  | token :: rest, .members reversed name :: frames, .after json =>
    match token with
    | .comma => readTokens rest frames (.name ((name, json) :: reversed) false)
    | .closeObject => readTokens rest frames (.after (.object ((name, json) :: reversed).reverse))
    | _ => none

/-- The document at the front of a text, and the tokens behind it. -/
def read? (text : String) : Option (Json × List Token) :=
  readTokens (tokens text) [] (.value false)

/-- The document that a whole text is. -/
def parse? (text : String) : Option Json :=
  match read? text with
  | some (json, []) => some json
  | _ => none

end CallWeave.Json
