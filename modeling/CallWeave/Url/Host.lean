import CallWeave.Url.Percent

/-!
# Hosts

The host of a URL is a domain, a number of four parts or an address in brackets. What a domain in all the
characters of Unicode comes to takes tables that are kept by a library, so a reader of URLs is given a
`HostParser`. `Host.plain` is one that needs no tables: it reads addresses, and names in plain characters.
-/

namespace CallWeave.Url

/-- What keeps a text from being a URL. -/
inductive Error where
  /-- No scheme stands in front. -/
  | noScheme
  | emptyHost
  | badDomain
  | badPort
  | badIpv4
  | badIpv6
  /-- A character that may not stand in the host of an unknown scheme. -/
  | badHostCharacter
deriving DecidableEq

/-- The text of an error. -/
def Error.message : Error → String
  | .noScheme => "relative URL without a base"
  | .emptyHost => "empty host"
  | .badDomain => "invalid international domain name"
  | .badPort => "invalid port number"
  | .badIpv4 => "invalid IPv4 address"
  | .badIpv6 => "invalid IPv6 address"
  | .badHostCharacter => "invalid domain character"

/-- A host. -/
inductive Host where
  | domain (name : String)
  | ipv4 (number : Nat)
  | ipv6 (pieces : List Nat)
deriving DecidableEq

/-- Reads the host of a special scheme; the text is not empty. -/
abbrev HostParser := List Char → Except Error Host

/-- Splits at every occurrence of a separator. -/
def splitOn (separator : Char) : List Char → List (List Char)
  | [] => [[]]
  | c :: rest =>
    if c = separator then [] :: splitOn separator rest
    else match splitOn separator rest with
      | [] => [[c]]
      | part :: parts => (c :: part) :: parts

/-! ## Four numbers -/

/-- The number that digits of a base spell. -/
def number? (radix : Nat) (digits : List Char) : Option Nat :=
  digits.foldl (fun number c =>
    match number, Hex.digitValue? c with
    | some n, some d => if d < radix then some (n * radix + d) else none
    | _, _ => none) (some 0)

/-- Reads one part: a base of sixteen behind `0x`, of eight behind `0`, ten otherwise. -/
def ipv4Part? : List Char → Option Nat
  | [] => none
  | '0' :: 'x' :: digits => number? 16 digits
  | '0' :: 'X' :: digits => number? 16 digits
  | '0' :: d :: digits => number? 8 (d :: digits)
  | digits => number? 10 digits

/-- The parts of a host, without an empty one at the end. -/
def dottedParts (name : List Char) : List (List Char) :=
  let parts := splitOn '.' name
  if 1 < parts.length ∧ parts.getLastD [] = [] then parts.dropLast else parts

/-- Whether the last part of a host is a number. -/
def endsInNumber (name : List Char) : Bool :=
  let last := (dottedParts name).getLastD []
  (!last.isEmpty && last.all fun c => '0' ≤ c && c ≤ '9') || (ipv4Part? last).isSome

/-- Reads an address of up to four parts, the last of which fills what the others leave. -/
def ipv4? (name : List Char) : Option Nat :=
  let parts := dottedParts name
  match parts.mapM ipv4Part? with
  | none => none
  | some numbers =>
    let leading := numbers.dropLast
    let last := numbers.getLastD 0
    if 4 < numbers.length ∨ leading.any (255 < ·) ∨ Nat.pow 256 (4 - leading.length) ≤ last then none
    else some ((leading ++ List.replicate (4 - leading.length) 0).foldl (fun n part => n * 256 + part) 0 + last)

/-- The four parts of an address. -/
def ipv4Text (number : Nat) : String :=
  ".".intercalate ([16777216, 65536, 256, 1].map fun weight => toString (number / weight % 256))

/-! ## Eight pieces in brackets -/

/-- Reads one piece: one to four digits. -/
def ipv6Piece? (digits : List Char) : Option Nat :=
  if digits.isEmpty ∨ 4 < digits.length then none else number? 16 digits

/-- Reads four plain decimal parts as two pieces. -/
def ipv6Dotted? (text : List Char) : Option (List Nat) :=
  let part? (digits : List Char) : Option Nat :=
    if digits.isEmpty ∨ (1 < digits.length ∧ digits.head? = some '0') then none
    else (number? 10 digits).filter (· < 256)
  match (splitOn '.' text).mapM part? with
  | some [a, b, c, d] => some [a * 256 + b, c * 256 + d]
  | _ => none

/-- Reads pieces with colons between them, the last of which may be dotted. -/
def ipv6Pieces? : List (List Char) → Option (List Nat)
  | [] => some []
  | [last] => if last.contains '.' then ipv6Dotted? last else (ipv6Piece? last).map ([·])
  | piece :: rest =>
    match ipv6Piece? piece, ipv6Pieces? rest with
    | some n, some ns => some (n :: ns)
    | _, _ => none

/-- Splits at the first double colon. -/
def splitGap : List Char → Option (List Char × List Char)
  | [] => none
  | ':' :: ':' :: rest => some ([], rest)
  | c :: rest => (splitGap rest).map fun (before, after) => (c :: before, after)

/-- Reads a side of the gap. -/
def ipv6Side? (text : List Char) : Option (List Nat) :=
  if text.isEmpty then some [] else ipv6Pieces? (splitOn ':' text)

/-- Reads eight pieces; a double colon stands for as many zeros as are missing, at least one. -/
def ipv6? (text : List Char) : Option (List Nat) :=
  match splitGap text with
  | none => (ipv6Side? text).filter (·.length == 8)
  | some (before, after) =>
    if before.contains '.' then none
    else match ipv6Side? before, ipv6Side? after with
      | some a, some b =>
        if a.length + b.length ≤ 7 then some (a ++ List.replicate (8 - a.length - b.length) 0 ++ b) else none
      | _, _ => none

/-- How many zeros stand at the front. -/
def leadingZeros (pieces : List Nat) : Nat := (pieces.takeWhile (· == 0)).length

/-- The place and the length of the first longest run of zeros. -/
def longestZeros : List Nat → (place : Nat) → Nat × Nat
  | [], place => (place, 0)
  | piece :: rest, place =>
    let here := leadingZeros (piece :: rest)
    let later := longestZeros rest (place + 1)
    if later.2 ≤ here then (place, here) else later

/-- Pieces with colons between them. -/
def piecesText (pieces : List Nat) : String :=
  ":".intercalate (pieces.map fun n => String.ofList ((Hex.numberDigits 4 n).reverse))

/-- The eight pieces, the first longest run of at least two zeros left out. -/
def ipv6Text (pieces : List Nat) : String :=
  let (place, length) := longestZeros pieces 0
  if length < 2 then piecesText pieces
  else piecesText (pieces.take place) ++ "::" ++ piecesText (pieces.drop (place + length))

/-! ## Domains -/

/-- Characters that may not stand in a domain. -/
def isForbidden (c : Char) : Bool :=
  c.toNat ≤ 0x20 || c.toNat = 0x7f || "%#/:<>?@[\\]^|".toList.contains c

/-- The lower case of a name in plain characters. Names in other characters are refused, and so are labels that
stand for such. -/
def plainName? (name : List Char) : Option (List Char) :=
  let lower := name.map Char.toLower
  if lower.any (fun c => isForbidden c || 128 ≤ c.toNat) ||
      (splitOn '.' lower).any (['x', 'n', '-', '-'].isPrefixOf ·) then none
  else some lower

/-- Reads a host whose name, if it has one, is put into plain characters by `name?`. A host whose last label is
a number has to be an address of four parts. -/
def Host.parseWith (name? : List Char → Option (List Char)) : HostParser
  | '[' :: rest =>
    if rest.getLastD '[' = ']' then
      match ipv6? rest.dropLast with
      | some pieces => .ok (.ipv6 pieces)
      | none => .error .badIpv6
    else .error .badIpv6
  | text =>
    let decoded := (String.fromUTF8? ⟨(percentDecode text).toArray⟩).map String.toList
    match decoded.bind name? with
    | none => .error .badDomain
    | some [] => .error .emptyHost
    | some name =>
      if endsInNumber name then
        match ipv4? name with
        | some number => .ok (.ipv4 number)
        | none => .error .badIpv4
      else .ok (.domain (String.ofList name))

/-- Reads addresses and names in plain characters. -/
def Host.plain : HostParser := Host.parseWith plainName?

/-- The text of a host. -/
def Host.text : Host → String
  | .domain name => name
  | .ipv4 number => ipv4Text number
  | .ipv6 pieces => "[" ++ ipv6Text pieces ++ "]"

end CallWeave.Url
