import Scoreboard.Relay.Retrieval

/-! Rounds: fetched once, kept, and processed when they are the newest. -/

namespace Scoreboard

namespace Relay

/-- The relay after all events of a list. -/
def emitAll (relay : Relay) (events : List LiveEvent) : Relay :=
  events.foldl emit relay

/-- The relay after the step from one round to the next. -/
def processRound (relay : Relay) (previous round : Round) : Relay :=
  -- First bloods are told; histories of another list of services go, and the others grow.
  let relay := relay.emitAll (detectFirstBloods previous round)
  let histories := if servicesChanged previous round then .initial else relay.histories
  { relay with histories := histories.extend round }

/-- The relay after a look at a round: processed if it is the newest, follows a known one, and is new. -/
def settleRound (relay : Relay) (tick : Tick) (round : Round) : Relay :=
  if tick = relay.scoreboardTick then
    match relay.rounds.get? (tick - 1) with
    | none => relay
    | some previous =>
      if relay.rounds.claimable tick then
        { relay with rounds := relay.rounds.claim tick }.processRound previous.round round
      else relay
  else relay

/-- The relay after a round was fetched for a tick, and what is kept of it. -/
def storeRound (relay : Relay) (tick : Tick) (round : Round) : Relay × Snapshot :=
  let snapshot : Snapshot := ⟨relay.fetchedRounds, round⟩
  ({ relay with
      rounds := relay.rounds.put tick snapshot
      fetchedRounds := relay.fetchedRounds + 1 },
    snapshot)

/-- What becomes of a round once it is there, or not to be had. -/
def finishRanking (relay : Relay) (use : RankingUse) (tick : Tick)
    (result : Except ServiceError Snapshot) : Relay × Next :=
  match use, result with
  | .plain, result => (relay, .done (.ranking result))
  | .response, result =>
    (relay, .done (.response (.ofResult (fun snapshot => Codec.round.write snapshot.round) result)))
  | .follow seen, _ => (relay, .wait (.watching seen))
  | .gameOver, .ok snapshot => relay.enter (.nameWinners tick snapshot.round)
  | .gameOver, .error problem => (relay, .done (.podium (.error problem)))

/-- The first turn of a task that wants a round, which is in the cache or has to be fetched. -/
def askRanking (relay : Relay) (use : RankingUse) (tick : Tick) : Relay × Next :=
  if tick < 0 then relay.finishRanking use tick (.error (.negativeTick tick))
  else match relay.rounds.get? tick with
    | some snapshot => relay.enter (.settleRound use tick snapshot)
    | none => (relay, .wait (.fetchingRound use tick 0))

/-- The turn of a task that wants a round after the request for it came to an end. -/
def continueRanking (relay : Relay) (use : RankingUse) (tick : Tick) (retry : Nat) (now : Nat) :
    Except ApiError Round → Relay × Next
  | .ok round =>
    let (relay, snapshot) := relay.storeRound tick round
    relay.enter (.settleRound use tick snapshot)
  | .error problem =>
    let policy := (Endpoint.round tick).policy
    match policy.afterFailure retry problem with
    | .pausing retry =>
      (relay, .wait (.pausingRound use tick retry (now + policy.delayBefore retry)))
    | .givenUp problem => relay.finishRanking use tick (.error problem)

/-- The follower at its next look at the newest tick. -/
def followerLook (relay : Relay) : Relay × Next :=
  let seen := relay.bus.newestTick.version
  if relay.newestTick < 0 then (relay, .wait (.watching seen))
  else relay.askRanking (.follow seen) relay.newestTick

end Relay

end Scoreboard
