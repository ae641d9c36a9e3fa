import Scoreboard.Document.History
import Scoreboard.Document.Round
import Scoreboard.Table

/-! Point histories of teams, fetched whole and extended tick by tick. -/

namespace Scoreboard

/-- The point histories kept, by team. -/
structure HistoryCache where
  histories : Table TeamId PointHistory

namespace HistoryCache

/-- The cache without histories. -/
def initial : HistoryCache :=
  ⟨.empty⟩

/-- The history of a team. -/
def get? (cache : HistoryCache) (team : TeamId) : Option PointHistory :=
  cache.histories.get? team

/-- How many ticks the first series of a history covers. -/
def firstLength (history : PointHistory) : Option Nat :=
  history.head?.map List.length

/-- How many ticks the history of a team covers. -/
def coveredTicks (cache : HistoryCache) (team : TeamId) : Option Nat :=
  (cache.get? team).bind firstLength

/-- The cache with the history of a team, which an empty one does not replace. -/
def put (cache : HistoryCache) (team : TeamId) (history : PointHistory) : HistoryCache :=
  if history.isEmpty then cache else ⟨cache.histories.insert team history⟩

/-- The cache without the history of a team. -/
def invalidate (cache : HistoryCache) (team : TeamId) : HistoryCache :=
  ⟨cache.histories.erase team⟩

/-- The series of a history with the totals of a rank at their ends, as many as have a result. -/
def appendTotals : PointHistory → List ServiceResult → PointHistory
  | [], _ => []
  | history, [] => history
  | series :: history, result :: results => (series ++ [result.total]) :: appendTotals history results

/-- What a round adds to the history of a team, none when the history does not end right before it. -/
def extension? (round : Round) (team : TeamId) (history : PointHistory) : Option PointHistory :=
  -- The next tick of the history has to be the tick of the round, and the team has to be ranked.
  if firstLength history = some round.tick.toInt.toNat ∧ 0 ≤ round.tick then
    (round.rankOf? team).map fun rank => appendTotals history rank.services
  else none

/-- The cache with every history that a round continues carried on by its totals. -/
def extend (cache : HistoryCache) (round : Round) : HistoryCache :=
  ⟨cache.histories.mapEntries fun team history => (extension? round team history).getD history⟩

/-- The teams whose histories a round continues, in ascending order. -/
def extended (cache : HistoryCache) (round : Round) : List TeamId :=
  (cache.histories.entries.filter fun entry => (extension? round entry.1 entry.2).isSome).foldl
    (fun teams entry => insertAscending entry.1 teams) []

end HistoryCache

end Scoreboard
