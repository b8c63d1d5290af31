import CallWeave.Bytes.Hex

/-!
# Percent encoding

A character that may not stand in a part of a URL is written as `%` and two hexadecimal digits for each byte
of its encoding. Which characters may stand depends on the part: `PercentSet` lists those that may not,
beside the control characters and everything beyond the first 128, which never may.
-/

namespace CallWeave.Url

/-- The printable characters that a part of a URL encodes. -/
abbrev PercentSet := List Char

/-- What a query encodes when the scheme is a special one. -/
def querySet : PercentSet := [' ', '"', '#', '<', '>', '\'']

/-- What a fragment encodes. -/
def fragmentSet : PercentSet := [' ', '"', '<', '>', '\x60']

/-- What a path encodes. -/
def pathSet : PercentSet := fragmentSet ++ ['#', '?', '^', '\x7b', '\x7d']

/-- What a user name or a password encodes. -/
def userSet : PercentSet := pathSet ++ ['/', ':', ';', '=', '@', '[', '\\', ']', '|']

/-- Whether a character has to be encoded. -/
def mustEncode (set : PercentSet) (c : Char) : Bool :=
  c.toNat < 0x20 || 0x7f ≤ c.toNat || set.contains c

/-- The upper-case hexadecimal digits of a byte behind `%`. -/
def percentOctet (octet : UInt8) : List Char :=
  '%' :: [octet.toNat / 16, octet.toNat % 16].map fun d => (Hex.digit d).toUpper

/-- Encodes the characters that have to be. -/
def percentEncode (set : PercentSet) (text : List Char) : List Char :=
  text.flatMap fun c => if mustEncode set c then (String.utf8EncodeChar c).flatMap percentOctet else [c]

/-- The bytes of a text whose encoded bytes are put back; a `%` without two digits stands for itself. -/
def percentDecode : List Char → Bytes
  | [] => []
  | '%' :: high :: low :: rest =>
    match Hex.digitValue? high, Hex.digitValue? low with
    | some h, some l => UInt8.ofNat (16 * h + l) :: percentDecode rest
    | _, _ => String.utf8EncodeChar '%' ++ percentDecode (high :: low :: rest)
  | c :: rest => String.utf8EncodeChar c ++ percentDecode rest
termination_by text => text.length

end CallWeave.Url
