import CallWeave.Text.Blank
import CallWeave.Url.Host

/-!
# URLs

Reading a URL of a *special* scheme, one that always has a host, and writing it in its normal form: scheme
and host in lower case, no port when it is the scheme's own, a path without dot segments that begins with a
slash. Of a URL of any other scheme only the scheme is kept, because no transport takes one. The host is left
to a parser that is given.
-/

namespace CallWeave

/-- A URL with a host. -/
structure Url where
  scheme : String
  /-- User name and password in front of the host. -/
  user : String
  host : Url.Host
  port : Option Nat
  /-- The segments of the path. -/
  path : List String
  query : Option String
  fragment : Option String

/-- A URL, or the scheme of one that has no host or none that is looked at. -/
inductive AnyUrl where
  | special (url : Url)
  | other (scheme : String)

namespace Url

/-- The port that a special scheme stands for; none for other schemes. -/
def defaultPort? (scheme : String) : Option Nat :=
  if scheme = "http" ∨ scheme = "ws" then some 80
  else if scheme = "https" ∨ scheme = "wss" then some 443
  else if scheme = "ftp" then some 21
  else none

/-- Whether a character is a slash of either direction. -/
def isSlash (c : Char) : Bool := c == '/' || c == '\\'

/-- Whether a character ends the part of a URL that names the host. -/
def endsAuthority (c : Char) : Bool := isSlash c || c == '?' || c == '#'

/-- Splits the scheme off, in lower case. -/
def splitScheme? (text : List Char) : Option (String × List Char) :=
  let isInner (c : Char) : Bool := c.isAlphanum || c == '+' || c == '-' || c == '.'
  let scheme := text.takeWhile isInner
  match scheme, text.dropWhile isInner with
  | first :: _, ':' :: rest => if first.isAlpha then some (String.ofList (scheme.map Char.toLower), rest) else none
  | _, _ => none

/-- The user name and password, percent-encoded, with their separators. -/
def userText (info : List Char) : List Char :=
  let name := percentEncode userSet (info.takeWhile (· ≠ ':'))
  let password := percentEncode userSet ((info.dropWhile (· ≠ ':')).drop 1)
  if name.isEmpty && password.isEmpty then []
  else if password.isEmpty then name ++ ['@']
  else name ++ ':' :: (password ++ ['@'])

/-- Splits at the last `@`. -/
def splitUser (authority : List Char) : Option (List Char × List Char) :=
  let back := authority.reverse
  match back.dropWhile (· ≠ '@') with
  | [] => none
  | _ :: info => some (info.reverse, (back.takeWhile (· ≠ '@')).reverse)

/-- Splits at the first colon outside brackets. -/
def splitPort : (inside : Bool) → List Char → List Char × Option (List Char)
  | _, [] => ([], none)
  | inside, c :: rest =>
    if c = ':' ∧ !inside then ([], some rest)
    else
      let (host, port) := splitPort (if c = '[' then true else if c = ']' then false else inside) rest
      (c :: host, port)

/-- Reads a port; no digits are no port, and neither is the scheme's own. -/
def readPort (scheme : String) : Option (List Char) → Except Error (Option Nat)
  | none => .ok none
  | some digits =>
    if digits.all fun c => '0' ≤ c && c ≤ '9' then
      match digits, number? 10 digits with
      | [], _ => .ok none
      | _, some port =>
        if 65535 < port then .error .badPort
        else .ok (if defaultPort? scheme = some port then none else some port)
      | _, none => .error .badPort
    else .error .badPort

/-- Whether a segment means the current directory. -/
def isSingleDot (segment : List Char) : Bool :=
  let lower := String.ofList (segment.map Char.toLower)
  lower == "." || lower == "%2e"

/-- Whether a segment means the directory above. -/
def isDoubleDot (segment : List Char) : Bool :=
  let lower := String.ofList (segment.map Char.toLower)
  lower == ".." || lower == ".%2e" || lower == "%2e." || lower == "%2e%2e"

/-- Takes the dot segments out; `done` holds the segments so far, last first. -/
def resolveDots : (done : List (List Char)) → List (List Char) → List (List Char)
  | done, [] => done.reverse
  | done, [last] =>
    if isDoubleDot last then ([] :: done.drop 1).reverse
    else if isSingleDot last then ([] :: done).reverse
    else (last :: done).reverse
  | done, segment :: rest =>
    if isDoubleDot segment then resolveDots (done.drop 1) rest
    else if isSingleDot segment then resolveDots done rest
    else resolveDots (segment :: done) rest

/-- The segments of a path, which begins with a slash if it is not empty. -/
def pathSegments (path : List Char) : List String :=
  let slashes := path.map fun c => if c = '\\' then '/' else c
  let segments := match slashes with
    | '/' :: rest => splitOn '/' rest
    | rest => splitOn '/' rest
  (resolveDots [] (segments.map (percentEncode pathSet))).map String.ofList

/-- Reads a URL of a special scheme behind the scheme. -/
def parseSpecial (hosts : HostParser) (scheme : String) (text : List Char) : Except Error Url :=
  let text := text.dropWhile isSlash
  let authority := text.takeWhile (!endsAuthority ·)
  let behind := text.dropWhile (!endsAuthority ·)
  let (info, address) := (splitUser authority).getD ([], authority)
  let (hostText, portText) := splitPort false address
  if hostText.isEmpty then .error .emptyHost
  else match hosts hostText with
    | .error e => .error e
    | .ok host =>
      match readPort scheme portText with
      | .error e => .error e
      | .ok port =>
        let path := behind.takeWhile fun c => c ≠ '?' ∧ c ≠ '#'
        let query := (behind.drop path.length).takeWhile (· ≠ '#')
        let fragment := (behind.drop path.length).dropWhile (· ≠ '#')
        let part (set : PercentSet) : List Char → Option String
          | [] => none
          | _ :: body => some (String.ofList (percentEncode set body))
        .ok ⟨scheme, String.ofList (userText info), host, port, pathSegments path,
          part querySet query, part fragmentSet fragment⟩

/-- Reads a URL. Control characters and blanks around it are dropped, tabs and line breaks anywhere. -/
def parse (hosts : HostParser) (text : String) : Except Error AnyUrl :=
  let isEdge (c : Char) : Bool := c.toNat ≤ 0x20
  let inner := ((text.toList.dropWhile isEdge).reverse.dropWhile isEdge).reverse
  match splitScheme? (inner.filter fun c => c ≠ '\t' ∧ c ≠ '\n' ∧ c ≠ '\r') with
  | none => .error .noScheme
  | some (scheme, rest) =>
    match defaultPort? scheme with
    | none => .ok (.other scheme)
    | some _ => (parseSpecial hosts scheme rest).map .special

/-- The path and the query: what is asked of the host. -/
def resource (url : Url) : String :=
  "/" ++ "/".intercalate url.path ++ (match url.query with
    | some query => "?" ++ query
    | none => "")

/-- The normal form of a URL. -/
def text (url : Url) : String :=
  let port := match url.port with
    | some port => ":" ++ toString port
    | none => ""
  let fragment := match url.fragment with
    | some fragment => "#" ++ fragment
    | none => ""
  url.scheme ++ "://" ++ url.user ++ url.host.text ++ port ++ url.resource ++ fragment

end Url

end CallWeave
