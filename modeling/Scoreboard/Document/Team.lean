import Scoreboard.Document.CurrentState
import Scoreboard.Json.Value
import Scoreboard.Table

/-! The team directory. -/

namespace Scoreboard

/-- A team as the directory describes it. -/
structure Team where
  id : TeamId
  name : String
  vulnbox : String
  affiliation : String
  web : String
  logo : Option String
deriving DecidableEq, Repr

/-- The logo a value stands for: a nonempty text is its path, a flag or an empty text means none. -/
def logoOf : Json → Except DecodeError (Option String)
  | .null | .bool _ => .ok none
  | .string path => .ok (if path.isEmpty then none else some path)
  | _ => .error .notALogo

/-- Logos, read whole before their shape is looked at. -/
def Codec.logo : Codec (Option String) where
  read room text := do
    let (value, text) ← Json.read room text
    .ok (← logoOf value, text)
  write := (Codec.optional .string).write

/-- The members of a team. -/
def Team.record : Record [Int64, String, String, String, String, Option String] Team where
  fields :=
    .cons (.defaulted "id" .int64 0) <|
    .cons (.required "name" .string) <|
    .cons (.defaulted "vulnbox" .string "") <|
    .cons (.defaulted "aff" .string "") <|
    .cons (.defaulted "web" .string "") <|
    .cons (.defaulted "logo" .logo none) .nil
  make := fun (id, name, vulnbox, affiliation, web, logo, ()) =>
    ⟨id, name, vulnbox, affiliation, web, logo⟩
  parts team := (team.id, team.name, team.vulnbox, team.affiliation, team.web, team.logo, ())

/-- The document of one team. -/
def Codec.team : Codec Team :=
  Team.record.codec

/-- Teams by their numbers, in the order in which the numbers first appear. -/
abbrev TeamsDocument := Table TeamId Team

/-- The number a member's name spells, the text standing behind its opening quote. -/
def readTeamKey (text : List Char) : Except DecodeError (TeamId × List Char) := do
  -- The digits start right at the quote, and a quote follows them.
  match text with
  | c :: _ =>
    if c = '-' ∨ c.isDigit then
      match ← Codec.int64.read 0 text with
      | (id, '"' :: text) => .ok (id, text)
      | _ => .error .malformed
    else .error .malformed
  | [] => .error .malformed

/-- One team of the directory, the text standing behind the quote that opens its number. -/
def readTeamMember (room : Nat) (teams : TeamsDocument) (text : List Char) :
    Except DecodeError (TeamsDocument × List Char) := do
  let (id, text) ← readTeamKey text
  let (team, text) ← Codec.team.read room (← readColon text)
  .ok (teams.insert id team, text)

/-- The document of the team directory. -/
def Codec.teams : Codec TeamsDocument where
  read room text :=
    match dropBlanks text with
    | [] => .error .truncated
    | '{' :: rest =>
      match room with
      | 0 => .error .malformed
      | room + 1 => readObject (readTeamMember room) Table.empty rest
    | text => .error (kindProblem text)
  write teams := writeObject <| teams.entries.map fun (id, team) =>
    writeMember (String.ofList (intDigits id.toInt)) (Codec.team.write team)

/-- The directory with every team carrying the number it is listed under. -/
def TeamsDocument.withIds (teams : TeamsDocument) : TeamsDocument :=
  teams.mapEntries fun id team => { team with id := id }

/-- The teams of a directory in its order. -/
def TeamsDocument.all (teams : TeamsDocument) : List Team :=
  teams.entries.map Prod.snd

end Scoreboard
