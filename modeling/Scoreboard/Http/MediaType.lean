/-! Media types: which texts name one, and which of those stand for JSON. -/

namespace Scoreboard

/-- Whether a character can stand in a name of a media type. -/
def isTokenChar (c : Char) : Bool :=
  c.isAlphanum || "!#$%&'*+-.^_`|~".toList.contains c

/-- Where the reading of parameters stands. -/
inductive ParameterMode
  /-- In front of a name. -/
  | front
  /-- Inside a name. -/
  | name
  /-- Behind the equals sign. -/
  | equals
  /-- Inside a value. -/
  | value
  /-- Behind the quote that opens a value. -/
  | opened
  /-- Inside a quoted value. -/
  | quoted
  /-- Behind the quote that closes a value. -/
  | closed
deriving DecidableEq, Repr

/-- One more character of the parameters, none when it cannot stand there. -/
def ParameterMode.step? : ParameterMode → Char → Option ParameterMode
  | .front, c => if c = ' ' then some .front else if isTokenChar c then some .name else none
  | .name, c => if c = '=' then some .equals else if isTokenChar c then some .name else none
  | .equals, c => if c = '"' then some .opened else if isTokenChar c then some .value else none
  | .value, c => if c = ';' then some .front else if isTokenChar c then some .value else none
  | .opened, c => if ' ' ≤ c ∧ c ≤ '~' then some .quoted else none
  | .quoted, c =>
    if c = '"' then some .closed else if ' ' ≤ c ∧ c ≤ '~' then some .quoted else none
  | .closed, c => if c = ';' then some .front else if c = ' ' then some .closed else none

/-- Whether the parameters may end where they stand. -/
def ParameterMode.complete : ParameterMode → Bool
  | .front | .equals | .value | .closed => true
  | .name | .opened | .quoted => false

/-- Whether a text is a row of parameters, the semicolon in front of it aside. -/
def areParameters (text : List Char) : Bool :=
  ((text.foldlM ParameterMode.step? ParameterMode.front).map ParameterMode.complete).getD false

/-- A media type; its suffix is what stands behind the last plus sign of its name. -/
structure MediaType where
  family : String
  name : String
  suffix : Option String
deriving DecidableEq, Repr

/-- The media type whose family and name these are, written in any case. -/
def MediaType.ofNames (family name : List Char) : MediaType :=
  -- A plus sign at the very start belongs to the name.
  let lower (text : List Char) : String := String.ofList (text.map Char.toLower)
  if (name.drop 1).contains '+' then
    let suffix := (name.reverse.takeWhile (· != '+')).reverse
    ⟨lower family, lower (name.take (name.length - suffix.length - 1)), some (lower suffix)⟩
  else ⟨lower family, lower name, none⟩

/-- The media type a text names, perhaps with parameters behind it. -/
def MediaType.parse? (text : List Char) : Option MediaType :=
  match text.takeWhile isTokenChar, text.dropWhile isTokenChar with
  | first :: family, '/' :: rest =>
    let type := MediaType.ofNames (first :: family) (rest.takeWhile isTokenChar)
    match rest.dropWhile isTokenChar with
    | [] => some type
    | ';' :: parameters => if areParameters parameters then some type else none
    | _ => none
  | _, _ => none

/-- Whether a media type stands for JSON: by its name, or by its suffix. -/
def MediaType.isJson (type : MediaType) : Bool :=
  type.family == "application" && (type.name == "json" || type.suffix == some "json")

end Scoreboard
