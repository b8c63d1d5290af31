import CallWeave.Clipboard.Stored
import CallWeave.CommandLine.Command
import CallWeave.CommandLine.Failure
import CallWeave.Json.Reader
import CallWeave.Text.Blank

/-!
# Clipboard commands

Encoding a clipboard from instructions or from the words of one instruction, and showing an encoded one. What
is given is read in its order on the command line, the value last.
-/

namespace CallWeave.CommandLine

/-- Reads an amount, with or without blanks around it. -/
def amountOf (what raw : String) : Except Failure Uint256 :=
  (Numeral.uint256 (Text.trim raw)).mapError (.badAmount what raw)

/-- Reads the value of a clipboard; one that is not given is zero. -/
def valueOf : Option String → Except Failure Uint256
  | none => .ok 0
  | some raw => amountOf "value" raw

/-- Reads an index. -/
def indexOf (what raw : String) : Except Failure Uint128 :=
  (Numeral.uint128 raw).mapError (.badIndex what raw)

/-- Reads instructions. -/
def paramsOf (text : String) : Except Failure PasteParams :=
  match (Json.parse? text).bind Json.value? with
  | none => .error .instructionsNotJson
  | some json => (PasteParams.ofJson json).mapError .clipboard

/-- The clipboard that a text of instructions and a value encode. -/
def encodeText (instructions : String) (value : Option String) : Except Failure Bytes :=
  match paramsOf instructions with
  | .error e => .error e
  | .ok params =>
    match valueOf value with
    | .error e => .error e
    | .ok value => (CallWeave.Clipboard.encode params value).mapError .clipboard

/-- The clipboard of one instruction given in words. -/
def encodeSlotText (source copy paste : String) (value : Option String) : Except Failure Bytes :=
  match indexOf "source" source with
  | .error e => .error e
  | .ok source =>
    match indexOf "copy" copy with
    | .error e => .error e
    | .ok copy =>
      match indexOf "paste" paste with
      | .error e => .error e
      | .ok paste =>
        match valueOf value with
        | .error e => .error e
        | .ok value => (CallWeave.Clipboard.encodeSlot source copy paste value).mapError .clipboard

/-- The clipboard behind a text of hexadecimal digits. -/
def decodeText (text : String) : Except Failure CallWeave.Clipboard :=
  match Hex.decode (Text.trim text) with
  | .error e => .error (.clipboardNotHex e)
  | .ok data => (CallWeave.Clipboard.decode data).mapError .clipboard

/-- What a command about clipboards prints. -/
def ClipboardCommand.run : ClipboardCommand → Except Failure String
  | .encode instructions value => (encodeText instructions value).map Hex.encode
  | .slot source copy paste value => (encodeSlotText source copy paste value).map Hex.encode
  | .decode text => (decodeText text).map fun clipboard => clipboard.toStored.toJson.pretty

end CallWeave.CommandLine
