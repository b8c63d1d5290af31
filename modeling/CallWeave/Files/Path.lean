import CallWeave.Text.Blank

/-!
# Paths

Joining paths, and the tilde that stands for the home directory at the front of a path.
-/

namespace CallWeave.Path

/-- A path inside another: an absolute one replaces it, any other follows behind one slash. -/
def join (base rest : String) : String :=
  if rest.toList.head? = some '/' then rest
  else if base.isEmpty ∨ base.toList.getLast? = some '/' then base ++ rest
  else base ++ "/" ++ rest

/-- A path without blanks around it, with the home directory in place of a tilde that stands alone or in
front of a slash of either direction. -/
def expandHome (home path : String) : String :=
  match (Text.trim path).toList with
  | ['~'] => home
  | '~' :: '/' :: rest => join home (String.ofList rest)
  | '~' :: '\\' :: rest => join home (String.ofList rest)
  | other => String.ofList other

/-- Whether a path starts at the root. -/
def isAbsolute (path : String) : Bool := path.toList.head? = some '/'

/-- The parts between slashes. -/
def splitSlashes : List Char → List (List Char)
  | [] => [[]]
  | c :: rest =>
    if c = '/' then [] :: splitSlashes rest
    else match splitSlashes rest with
      | [] => [[c]]
      | part :: parts => (c :: part) :: parts

/-- The parts of a path that a walk takes in order. A slash at the end asks for a directory, as a single dot
does. -/
def parts (path : String) : List String :=
  let all := (splitSlashes path.toList).map String.ofList
  let named := all.filter (! ·.isEmpty)
  if all.getLast? = some "" then named ++ ["."] else named

/-- The parts of the path to the directory that holds a path's last part. -/
def parentParts (path : String) : List String :=
  ((parts path).filter (· ≠ ".")).dropLast

end CallWeave.Path
