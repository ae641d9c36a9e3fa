import Scoreboard.Api.BaseUrl
import Scoreboard.Api.Endpoint

/-! What a request asks a server for: the path and the query of an address. -/

namespace Scoreboard

/-- The digit of a number below sixteen, in capitals. -/
def capitalHexDigit (value : Nat) : Char :=
  (Nat.digitChar value).toUpper

/-- A text with percent signs and octets for the characters of a class and for all beyond ASCII. -/
def percentEncode (encodes : Char → Bool) (text : List Char) : List Char :=
  text.flatMap fun c =>
    if isAscii c && !encodes c then [c]
    else (utf8Octets [c]).flatMap fun octet =>
      ['%', capitalHexDigit (octet.toNat / 16), capitalHexDigit (octet.toNat % 16)]

/-- Whether a character is encoded wherever it stands in an address. -/
def isEncodedAnywhere (c : Char) : Bool :=
  c.toNat ≤ 0x20 || c.toNat == 0x7F || c == '"' || c == '#' || c == '<' || c == '>'

/-- Whether a character is encoded in a path. -/
def isEncodedInPath (c : Char) : Bool :=
  isEncodedAnywhere c || c == '?' || c == '\x60' || c == '\x7b' || c == '\x7d'

/-- Whether a character is encoded in a query. -/
def isEncodedInQuery (c : Char) : Bool :=
  isEncodedAnywhere c || c == '\''

/-- The number of points a segment of a path consists of, plain or encoded ones. -/
def pointCount? : List Char → Option Nat
  | [] => some 0
  | '.' :: rest | '%' :: '2' :: 'e' :: rest | '%' :: '2' :: 'E' :: rest =>
    (pointCount? rest).map (· + 1)
  | _ => none

/-- Whether a segment is the name of a drive, which is never left. -/
def isDrive : List Char → Bool
  | [letter, mark] => letter.isAlpha && (mark == ':' || mark == '|')
  | _ => false

/-- The segments of a path behind others, which come last one first, with points followed. -/
def followPoints (before : List (List Char)) : List (List Char) → List (List Char)
  | [] => before.reverse
  | segment :: rest =>
    let stay (before : List (List Char)) := if rest.isEmpty then [] :: before else before
    match pointCount? segment with
    | some 1 => followPoints (stay before) rest
    | some 2 =>
      let above := match before with
        | [] => []
        | last :: above => if isDrive last then last :: above else above
      followPoints (stay above) rest
    | _ => followPoints (percentEncode isEncodedInPath segment :: before) rest

/-- A path on the web as it is asked for. -/
def webPath (path : List Char) : List Char :=
  let slashed := path.map fun c => if c = '\\' then '/' else c
  let segments := splitText '/' (if slashed.head? = some '/' then slashed.tail else slashed)
  (followPoints [] segments).flatMap ('/' :: ·)

/-- The path and the query of an address on the web as they are asked for. -/
def UrlParts.target (parts : UrlParts) : List Char :=
  -- The fragment is for the one who asks and is not sent.
  let sent := parts.rest.takeWhile (· != '#')
  webPath (sent.takeWhile (· != '?'))
    ++ percentEncode isEncodedInQuery (sent.dropWhile (· != '?'))

/-- What is asked for to get a document of a backend. -/
def Endpoint.target (base : String) (endpoint : Endpoint) : String :=
  match UrlParts.read? (base.toList ++ endpoint.path.toList) with
  | some parts => String.ofList parts.target
  | none => endpoint.path

end Scoreboard
