import Scoreboard.Relay.Retrieval
import Scoreboard.Totals

/-! Point histories, cached while they cover the game, and attack statistics, always fetched. -/

namespace Scoreboard

/-- Points of a team as a document. -/
def writePoints (team : TeamId) (points : List Char) : List Char :=
  writeObject [writeMember "team_id" (intDigits team.toInt), writeMember "points" points]

/-- A point history in the form in which it is wanted. -/
def HistoryUse.outcome (use : HistoryUse) (team : TeamId)
    (result : Except ServiceError PointHistory) : Outcome :=
  match use with
  | .plain => .history result
  | .totals => .totals (result.map sumServices)
  | .response =>
    .response (.ofResult (fun history => writePoints team (Codec.pointHistory.write history)) result)
  | .totalsResponse =>
    .response (.ofResult
      (fun history => writePoints team ((Codec.list .float).write (sumServices history))) result)

/-- Attack statistics in the form in which they are wanted. -/
def StatsUse.outcome (use : StatsUse) (result : Except ServiceError (List (List ServiceStat))) :
    Outcome :=
  match use with
  | .plain => .stats result
  | .response =>
    .response (.ofResult
      (fun stats => writeObject [writeMember "stats" (Codec.statSeries.write stats)]) result)

namespace Relay

/-- The history of a team as far as the cache covers the current tick. -/
def cachedHistory? (relay : Relay) (team : TeamId) : Option PointHistory :=
  match relay.histories.coveredTicks team with
  | none => none
  | some covered =>
    if relay.live.current.currentTick.toInt < covered then relay.histories.get? team else none

/-- The turn of a task that wants a point history and takes it from the cache if that covers the game. -/
def lookUpHistory (relay : Relay) (use : HistoryUse) (team : TeamId) : Relay × Next :=
  match relay.cachedHistory? team with
  | some history => (relay, .done (use.outcome team (.ok history)))
  | none => (relay, .wait (.fetchingHistory use team 0))

/-- The turn of a task that wants a point history after the request for it came to an end. -/
def continueHistory (relay : Relay) (use : HistoryUse) (team : TeamId) (retry : Nat) (now : Nat) :
    Except ApiError TeamHistory → Relay × Next
  | .ok history =>
    ({ relay with histories := relay.histories.put team history.points },
      .done (use.outcome team (.ok history.points)))
  | .error problem =>
    let policy := (Endpoint.teamHistory team).policy
    match policy.afterFailure retry problem with
    | .pausing retry =>
      (relay, .wait (.pausingHistory use team retry (now + policy.delayBefore retry)))
    | .givenUp problem => (relay, .done (use.outcome team (.error problem)))

/-- The turn of a task that wants attack statistics after the request for them came to an end. -/
def continueStats (relay : Relay) (use : StatsUse) (retry : Nat) (now : Nat) :
    Except ApiError ServiceStats → Relay × Next
  | .ok stats => (relay, .done (use.outcome (.ok stats.stats)))
  | .error problem =>
    let policy := Endpoint.serviceStats.policy
    match policy.afterFailure retry problem with
    | .pausing retry =>
      (relay, .wait (.pausingStats use retry (now + policy.delayBefore retry)))
    | .givenUp problem => (relay, .done (use.outcome (.error problem)))

end Relay

end Scoreboard
