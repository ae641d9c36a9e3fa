import Scoreboard.Hub
import Scoreboard.Overlay
import Scoreboard.Preferences

/-! The events the relay sends to the dashboards. -/

namespace Scoreboard

namespace ServerEvent

/-- An event whose data is a document. -/
def ofDocument (name : String) (document : List Char) : ServerEvent :=
  ⟨some name, String.ofList document⟩

/-- A scoreboard of another tick is published. -/
def scoreboardTick (current : CurrentState) : ServerEvent :=
  ofDocument "scoreboard_tick" <| writeObject
    [writeMember "tick" (intDigits current.scoreboardTick.toInt),
      writeMember "current_tick" (intDigits current.currentTick.toInt),
      writeMember "state" (Codec.phase.write current.state)]

/-- A team exploits a service before others do. -/
def firstBlood (service team : String) : ServerEvent :=
  ofDocument "first_blood" <| writeObject
    [writeMember "service" (quote service.toList), writeMember "team" (quote team.toList)]

/-- The game is over, and this is its podium. -/
def gameOver (tick : Tick) (podium : List PodiumEntry) : ServerEvent :=
  ofDocument "game_over" <| writeObject
    [writeMember "tick" (intDigits tick.toInt), writeMember "podium" (writePodium podium)]

/-- The overlay has changed. -/
def overlay (overlay : Overlay) : ServerEvent :=
  ofDocument "overlay" overlay.write

/-- The display preferences have changed. -/
def preferences (preferences : Preferences) : ServerEvent :=
  ofDocument "preferences" (Codec.preferences.write preferences)

/-- A message in plain words. -/
def info (message : String) : ServerEvent :=
  ⟨some "info", message⟩

end ServerEvent

end Scoreboard
