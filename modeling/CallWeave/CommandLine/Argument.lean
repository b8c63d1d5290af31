/-!
# Arguments

One argument of a command line, told apart by its dashes. Two dashes alone end the options; two dashes in
front of a name give an option, with a value behind an equals sign; one dash in front of characters gives
letters. Everything else, a lone dash and the empty text among it, is plain.
-/

namespace CallWeave.CommandLine

/-- What one argument looks like. -/
inductive Argument where
  /-- Only plain arguments follow. -/
  | optionsEnd
  | long (name : String) (value : Option String)
  /-- A letter and what stands behind it. -/
  | short (letter : Char) (rest : List Char)
  | plain
deriving DecidableEq

/-- Splits at the first equals sign. -/
def splitEquals : List Char → List Char × Option (List Char)
  | [] => ([], none)
  | c :: rest =>
    if c = '=' then ([], some rest)
    else
      let (name, value) := splitEquals rest
      (c :: name, value)

/-- Classifies an argument. -/
def Argument.ofText (text : String) : Argument :=
  match text.toList with
  | ['-', '-'] => .optionsEnd
  | '-' :: '-' :: rest =>
    let (name, value) := splitEquals rest
    .long (String.ofList name) (value.map String.ofList)
  | '-' :: letter :: rest => .short letter rest
  | _ => .plain

/-- The value behind a letter, if there is anything behind it; an equals sign in front of the value is no part
of it. -/
def attachedValue? : List Char → Option String
  | [] => none
  | '=' :: value => some (String.ofList value)
  | value => some (String.ofList value)

end CallWeave.CommandLine
