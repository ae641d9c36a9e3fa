import Scoreboard.Api.DomainName
import Scoreboard.Api.HostAddress
import Scoreboard.Text.Blank
import Scoreboard.Text.Utf8

/-! Which texts can be the address of a backend. -/

namespace Scoreboard

/-- An address with exactly one slash at its end. -/
def normalizedBase (address : String) : String :=
  String.ofList (dropTrailing (· == '/') address.toList ++ ['/'])

/-- The kinds of schemes, which differ in how a host is found behind them. -/
inductive SchemeKind
  /-- A web scheme, which needs a host. -/
  | web
  | file
  | other
deriving DecidableEq, Repr

/-- The kind of a scheme in lower case. -/
def schemeKind (scheme : String) : SchemeKind :=
  if ["http", "https", "ws", "wss", "ftp"].contains scheme then .web
  else if scheme = "file" then .file
  else .other

/-- Whether a character separates the parts of a path. -/
def isPathSeparator (kind : SchemeKind) (c : Char) : Bool :=
  c == '/' || (c == '\\' && kind != .other)

/-- Whether a character ends the part of an address that names a host. -/
def endsAuthority (kind : SchemeKind) (c : Char) : Bool :=
  isPathSeparator kind c || c == '?' || c == '#'

/-- The scheme in front of the first colon with the text behind it. -/
def splitScheme? (text : List Char) : Option (String × List Char) :=
  -- A letter comes first, then letters, digits, plus, minus and point.
  let isSchemeChar (c : Char) := c.isAlphanum || c == '+' || c == '-' || c == '.'
  match text.takeWhile isSchemeChar, text.dropWhile isSchemeChar with
  | first :: more, ':' :: rest =>
    if first.isAlpha then some (String.ofList ((first :: more).map Char.toLower), rest) else none
  | _, _ => none

/-- The parts of an absolute address. -/
structure UrlParts where
  kind : SchemeKind
  /-- The text that names a user, a host and a socket, none where an address names no host. -/
  authority : Option (List Char)
  /-- The path, the query and the fragment. -/
  rest : List Char
deriving DecidableEq, Repr

/-- The parts of a text with a scheme. -/
def UrlParts.read? (text : List Char) : Option UrlParts := do
  -- Controls and blanks around an address, and line breaks anywhere in it, do not count.
  let text := trimBoth (fun c => c.toNat ≤ 0x20) text
  let (scheme, rest) ← splitScheme? (text.filter fun c => c != '\t' && c != '\n' && c != '\r')
  let kind := schemeKind scheme
  let split (text : List Char) : UrlParts :=
    ⟨kind, some (text.takeWhile fun c => !endsAuthority kind c),
      text.dropWhile fun c => !endsAuthority kind c⟩
  -- A host stands behind two slashes, and on the web behind any number of them.
  match kind, rest with
  | .web, _ => some (split (rest.dropWhile (isPathSeparator .web)))
  | _, first :: second :: behind =>
    if isPathSeparator kind first && isPathSeparator kind second then some (split behind)
    else some ⟨kind, none, rest⟩
  | _, _ => some ⟨kind, none, rest⟩

/-- Whether a nonempty text names a host on the web. -/
def validDomain (host : List Char) : Bool :=
  if host.head? = some '[' then validBracketed host
  else match (percentDecode? host).bind domainName? with
    | none => false
    | some name => !endsInNumber name || validAddress name

/-- Whether a nonempty text names a host of a scheme of its own. -/
def validOpaqueHost (host : List Char) : Bool :=
  if host.head? = some '[' then validBracketed host else !host.any forbiddenInHost

/-- The host in front of a text, up to a colon outside square brackets. -/
def takeHost (inside : Bool) : List Char → List Char × List Char
  | [] => ([], [])
  | c :: rest =>
    if c = ':' ∧ !inside then ([], c :: rest)
    else
      let (host, behind) := takeHost (if c = '[' then true else if c = ']' then false else inside) rest
      (c :: host, behind)

/-- Whether a text is empty or the number of a socket. -/
def validSocket (digits : List Char) : Bool :=
  digits.all Char.isDigit && digitsValue digits ≤ 65535

/-- Whether a text names a user, a host and a socket in a way the scheme allows. -/
def validAuthority (kind : SchemeKind) (authority : List Char) : Bool :=
  -- Everything up to the last at sign is about the user, and then a host has to follow.
  let server := (authority.reverse.takeWhile (· != '@')).reverse
  let user := authority.take (authority.length - server.length)
  let (host, socket) := takeHost false server
  -- A user with neither a name nor a password is none, but an at sign alone wants a host.
  if host.isEmpty then kind == .other && socket.isEmpty && (user.isEmpty || user == [':', '@'])
  else (if kind = .web then validDomain host else validOpaqueHost host)
    && validSocket ((socket.drop 1).takeWhile (· != '\\'))

/-- Whether a text names a host of the file scheme: none, a drive, or a host of the web. -/
def validFileHost (host : List Char) : Bool :=
  match host with
  | [] => true
  | [drive, mark] => (drive.isAlpha && (mark == ':' || mark == '|')) || validDomain host
  | _ => validDomain host

/-- Whether the host of an address is one its scheme allows. -/
def UrlParts.valid (parts : UrlParts) : Bool :=
  match parts.authority, parts.kind with
  | none, _ => true
  | some host, .file => validFileHost host
  | some authority, kind => validAuthority kind authority

/-- The base address of a backend, none when it is not absolute. -/
def baseUrl? (address : String) : Option String :=
  let base := normalizedBase address
  ((UrlParts.read? base.toList).filter UrlParts.valid).map fun _ => base

/-- The wording of a base address that is refused. -/
def invalidUrlMessage (address : String) : String :=
  "invalid scoreboard API URL `" ++ normalizedBase address ++ "`"

end Scoreboard
