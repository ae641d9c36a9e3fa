import Scoreboard.Document.History

/-! Points of a team summed over its services. -/

namespace Scoreboard

/-- The sum of all series at each tick of the first one, with a value for missing points. -/
def sumSeries {α : Type} [Add α] (start missing : α) (history : List (List α)) : List α :=
  (List.range (history.headD []).length).map fun tick =>
    (history.map fun series => series.getD tick missing).foldl (· + ·) start

/-- The total points of a team at each tick. -/
def sumServices (history : PointHistory) : List Float :=
  sumSeries (-0.0) 0.0 history

end Scoreboard
