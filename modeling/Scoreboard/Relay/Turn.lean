import Scoreboard.Relay.Answer
import Scoreboard.Relay.Polling

/-! The turns of the tasks: what each does from the end of one wait to the start of the next. -/

namespace Scoreboard

/-- How long the team loader rests before a fresh series of attempts, in milliseconds. -/
def teamsRest : Nat := 5000

namespace Relay

/-- The turn of the team loader after a request came to an end. -/
def continueTeams (relay : Relay) (retry : Nat) (now : Nat) :
    Except ApiError TeamsDocument → Relay × Next
  | .ok document => relay.enter (.storeTeams document)
  | .error problem =>
    let policy := Endpoint.teams.policy
    match policy.afterFailure retry problem with
    | .pausing retry => (relay, .wait (.pausingTeams retry (now + policy.delayBefore retry)))
    | .givenUp _ => (relay, .wait (.restingTeams (now + teamsRest)))

/-- The dispatcher with the next thing on the bus. -/
def listen (relay : Relay) (now : Nat) (limiter : Limiter) (position : Nat) : Relay × Next :=
  match relay.bus.events.receive position with
  | (.message event, position) =>
    let (release, limiter) := limiter.schedule now
    (relay, .wait (.holding limiter position event release))
  | (_, position) => (relay, .wait (.listening limiter position))

/-- The first turn of a task. -/
def begin (relay : Relay) (now : Nat) : NewTask → Relay × Next
  | .poller => (relay, .wait (.polling true))
  | .teamLoader => (relay, .wait (.loadingTeams 0))
  | .follower => relay.followerLook
  | .dispatcher =>
    (relay, .wait (.listening (.ofInterval relay.notificationInterval) relay.bus.events.subscribe))
  | .gameOver tick => (relay, .wait (.awaitingTick tick))
  | .timer timer => (relay, .wait (.timing timer (now + timer.length)))

/-- The turn of a task that has got hold of the part of the shared state it needs. -/
def perform (relay : Relay) (now : Moment) (jitter : Float) : Step → Relay × Next
  | .absorbState again response =>
    let (relay, delay) := relay.absorbState response now.unix jitter
    relay.afterPoll again delay now.elapsed
  | .storeTeams document =>
    ({ relay with teams := TeamsDocument.withIds document }, .done .nothing)
  | .settleRound use tick snapshot =>
    (relay.settleRound tick snapshot.round).finishRanking use tick (.ok snapshot)
  | .lookUpHistory use team => relay.lookUpHistory use team
  | .nameWinners tick round => relay.nameWinners tick round
  | .keepPodium winners => relay.keepPodium winners
  | .weighPyro winners => relay.weighPyro winners
  | .playPyro winners => (relay.playPyro, .done (.podium (.ok winners)))
  | .weighBanner use service team => relay.weighBanner use service team
  | .showBanner use service team => (relay.showBanner service team).afterEvent use
  | .dismissBanner use => relay.takeDownBanner use
  | .runOut timer => (relay.runOut timer, .done .nothing)
  | .replaceState current =>
    ({ relay with live := relay.live.apply ⟨current, none⟩ now.unix }, .done .nothing)
  | .answer request route => relay.answerRoute now.unix request route
  | .look => (relay, .done .nothing)

/-- The turn of a stage that waited for a reply, and got it. -/
def resumeWithReply (relay : Relay) (now : Nat) (reply : Reply) : Stage → Relay × Next
  | .polling again => relay.continuePoll again now reply.stateResponse
  | .loadingTeams retry => relay.continueTeams retry now (reply.document .teams .teams)
  | .fetchingRound use tick retry =>
    relay.continueRanking use tick retry now (reply.document (.round tick) .round)
  | .fetchingHistory use team retry =>
    relay.continueHistory use team retry now (reply.document (.teamHistory team) .teamHistory)
  | .fetchingStats use retry =>
    relay.continueStats use retry now (reply.document .serviceStats .serviceStats)
  | stage => (relay, .wait stage)

/-- The turn of a stage that waited for something else than a reply, which has come. -/
def resume (relay : Relay) (now : Moment) (jitter : Float) : Stage → Relay × Next
  | .starting task => relay.begin now.elapsed task
  | .entering parts step =>
    -- The parts are got hold of one by one.
    if 1 < parts then (relay, .wait (.entering (parts - 1) step))
    else relay.perform now jitter step
  | .sleeping _ => (relay, .done .nothing)
  | .resting _ => (relay, .wait (.polling true))
  | .pausingTeams retry _ => (relay, .wait (.loadingTeams retry))
  | .restingTeams _ => (relay, .wait (.loadingTeams 0))
  | .pausingRound use tick retry _ => (relay, .wait (.fetchingRound use tick retry))
  | .pausingHistory use team retry _ => (relay, .wait (.fetchingHistory use team retry))
  | .pausingStats use retry _ => (relay, .wait (.fetchingStats use retry))
  | .watching _ => relay.followerLook
  | .awaitingTick tick => relay.askRanking .gameOver tick
  | .listening limiter position => relay.listen now.elapsed limiter position
  | .holding limiter position event _ => relay.handleEvent (.dispatch limiter position) event
  | .timing timer _ => relay.enter (.runOut timer)
  | stage => (relay, .wait stage)

/-- The first turn of something that is asked from outside. -/
def receive (relay : Relay) (now : Moment) : Call → Relay × Next
  | .start task => (relay, .wait (.starting task))
  | .poll => (relay, .wait (.polling false))
  | .request request => relay.answer now.unix request
  | .ranking tick => relay.askRanking .plain tick
  | .history team => relay.enter (.lookUpHistory .plain team)
  | .totals team => relay.enter (.lookUpHistory .totals team)
  | .stats => (relay, .wait (.fetchingStats .plain 0))
  | .event event => relay.handleEvent .plain event
  | .dismiss => relay.enter (.dismissBanner .plain)

end Relay

end Scoreboard
