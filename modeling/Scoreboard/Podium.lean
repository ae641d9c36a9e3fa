import Scoreboard.Document.Round
import Scoreboard.Document.Team

/-! The best teams of a scoreboard. -/

namespace Scoreboard

/-- A place on the podium; a team the directory lacks has no name. -/
structure PodiumEntry where
  teamId : TeamId
  name : Option String
  points : Float

/-- How many teams a podium holds. -/
def podiumSize : Nat := 3

/-- The first teams of a scoreboard with their names from the directory. -/
def podium (round : Round) (teams : TeamsDocument) : List PodiumEntry :=
  (round.scoreboard.take podiumSize).map fun rank =>
    ⟨rank.teamId, (teams.get? rank.teamId).map Team.name, rank.points⟩

/-- A place on the podium as a document. -/
def PodiumEntry.write (entry : PodiumEntry) : List Char :=
  writeObject
    [writeMember "team_id" (intDigits entry.teamId.toInt),
      writeMember "name" ((Codec.optional .string).write entry.name),
      writeMember "points" (floatText entry.points)]

/-- A podium as a document. -/
def writePodium (podium : List PodiumEntry) : List Char :=
  '[' :: (commaSeparated (podium.map PodiumEntry.write) ++ [']'])

end Scoreboard
