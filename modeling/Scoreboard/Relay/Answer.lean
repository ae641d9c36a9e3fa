import Scoreboard.Http.Body
import Scoreboard.Relay.Notification
import Scoreboard.Relay.Points
import Scoreboard.Relay.Ranking
import Scoreboard.Text.Countdown

/-! What the relay does with a request over HTTP. -/

namespace Scoreboard

/-- The status of a request that meets no route. -/
def RouteError.status : RouteError → Nat
  | .notFound => 404
  | .methodNotAllowed => 405
  | .badSegment => 400

/-- Where the game stands, as a document for the dashboards, none when no word holds what is left. -/
def LiveState.write? (live : LiveState) (now : Int) : Option (List Char) := do
  let remaining ← live.remainingSeconds? now
  some <| writeObject
    [writeMember "current_tick" (intDigits live.current.currentTick.toInt),
      writeMember "state" (Codec.phase.write live.current.state),
      writeMember "scoreboard_tick" (intDigits live.current.scoreboardTick.toInt),
      writeMember "current_tick_until" (intDigits live.current.currentTickUntil.toInt),
      writeMember "remaining_seconds" (intDigits remaining.toInt),
      writeMember "countdown" (quote (countdownText remaining)),
      writeMember "delta_client_to_server" (intDigits live.clockDelta.toInt),
      writeMember "banned_teams" ((Codec.list .int64).write live.banned),
      writeMember "final_tick" ((Codec.optional .int64).write live.finalTick)]

namespace Relay

/-- How the relay is, as a document. -/
def writeHealth (relay : Relay) : List Char :=
  writeObject
    [writeMember "status" (quote (if relay.degraded then "degraded" else "ok").toList),
      writeMember "scoreboard_tick" (intDigits relay.scoreboardTick.toInt),
      writeMember "cached_rounds" (natDigits relay.rounds.rounds.size),
      writeMember "known_teams" (natDigits relay.teams.size)]

/-- The team directory as a document for the dashboards. -/
def writeTeams (relay : Relay) : List Char :=
  writeObject [writeMember "teams" ((Codec.list .team).write (TeamsDocument.all relay.teams))]

/-- The relay after a dashboard has joined, with what it is told first and where it goes on. -/
def joinDashboard (relay : Relay) : Relay × List ServerEvent × Nat :=
  -- The subscription is taken before the greeting, so the new dashboard gets that too.
  (relay.broadcast (.info "public stream connected"), relay.hub.replay, relay.hub.channel.subscribe)

/-- The relay with other display preferences, which go to the dashboards. -/
def updatePreferences (relay : Relay) (preferences : Preferences) : Relay :=
  { relay with preferences := preferences }.broadcast (.preferences preferences)

/-- The relay after the end of the game was called out by hand. -/
def triggerFinal (relay : Relay) : Relay × Except ServiceError LiveEvent :=
  if relay.scoreboardTick < 0 then (relay, .error .noScoreboard)
  else (relay.emit (.final relay.scoreboardTick), .ok (.final relay.scoreboardTick))

/-- The service a wish names, or the first one of the newest round. -/
def wishedService? (relay : Relay) (wish : FirstBloodWish) : Option String :=
  wish.service.or <| (relay.rounds.get? relay.newestTick).bind fun snapshot =>
    snapshot.round.services.head?.map Service.name

/-- The team a wish names, or the first one of the directory. -/
def wishedTeam? (relay : Relay) (wish : FirstBloodWish) : Option String :=
  wish.team.or ((TeamsDocument.all relay.teams).head?.map Team.name)

/-- The relay after a first blood was called out by hand. -/
def triggerFirstBlood (relay : Relay) (wish : FirstBloodWish) :
    Relay × Except ServiceError LiveEvent :=
  match relay.wishedService? wish, relay.wishedTeam? wish with
  | none, _ => (relay, .error .noService)
  | some _, none => (relay, .error .noTeam)
  | some service, some team =>
    (relay.emit (.firstBlood service team), .ok (.firstBlood service team))

/-- The first blood in the body of a request, all of it left open without a content type. -/
def wishOf (request : Request) : Except BodyError FirstBloodWish :=
  if request.contentType.isNone then .ok ⟨none, none⟩
  else bodyDocument FirstBloodWish.record.codec request.contentType request.body

/-- The turn of a request that is answered at once. -/
def respond (relay : Relay) (response : Response) : Relay × Next :=
  (relay, .done (.response response))

/-- How many parts of the shared state are needed for an answer, one after the other. -/
def partsNeeded (relay : Relay) (request : Request) : Route → Nat
  | .health => 2
  | .state | .teams | .ranking _ | .overlay | .preferences | .triggerFinal => 1
  | .updatePreferences =>
    match bodyDocument Codec.preferences request.contentType request.body with
    | .ok _ => 1
    | .error _ => 0
  | .triggerFirstBlood =>
    -- The team directory is looked at for a wish that leaves the team open.
    match wishOf request with
    | .ok wish => if (relay.wishedService? wish).isSome && wish.team.isNone then 1 else 0
    | .error _ => 0
  | _ => 0

/-- The turn of a request that has got hold of what it needs. -/
def answerRoute (relay : Relay) (now : Int) (request : Request) : Route → Relay × Next
  | .health => relay.respond (.ofDocument relay.writeHealth)
  | .publicStream => (relay.joinDashboard.1, .done .stream)
  | .state =>
    match relay.live.write? now with
    | none => (relay, .done .brokenOff)
    | some document => relay.respond (.ofDocument document)
  | .teams => relay.respond (.ofDocument relay.writeTeams)
  | .ranking tick =>
    if relay.scoreboardTick < tick then relay.respond (.ofError (.unpublishedTick tick))
    else relay.askRanking .response tick
  | .points team => relay.enter (.lookUpHistory .response team)
  | .pointTotals team => relay.enter (.lookUpHistory .totalsResponse team)
  | .serviceStats => (relay, .wait (.fetchingStats .response 0))
  | .overlay => relay.respond (.ofDocument relay.overlay.write)
  | .dismissOverlay => relay.enter (.dismissBanner (.response request))
  | .preferences => relay.respond (.ofDocument (Codec.preferences.write relay.preferences))
  | .updatePreferences =>
    match bodyDocument .preferences request.contentType request.body with
    | .error problem => relay.respond (.bare problem.status)
    | .ok preferences =>
      (relay.updatePreferences preferences).respond
        (.ofDocument (Codec.preferences.write preferences))
  | .triggerFinal =>
    let (relay, result) := relay.triggerFinal
    relay.respond (.ofResult LiveEvent.write result)
  | .triggerFirstBlood =>
    match wishOf request with
    | .error problem => relay.respond (.bare problem.status)
    | .ok wish =>
      let (relay, result) := relay.triggerFirstBlood wish
      relay.respond (.ofResult LiveEvent.write result)
  | .docsEntry => relay.respond (.bare 303)
  | .docsPage name => relay.respond (.bare (if docsPages.contains name then 200 else 404))
  | .apiDescription => relay.respond (.bare 200)

/-- The first turn of a request. -/
def answer (relay : Relay) (now : Int) (request : Request) : Relay × Next :=
  match routeOf request.method request.address.toList with
  | .error problem => relay.respond (.bare problem.status)
  | .ok route =>
    match relay.partsNeeded request route with
    | 0 => relay.answerRoute now request route
    | parts => (relay, .wait (.entering parts (.answer request route)))

/-- The turn in which the banner is taken down. -/
def takeDownBanner (relay : Relay) (use : DismissalUse) : Relay × Next :=
  let (relay, taken) := relay.dismissBanner
  match use with
  | .plain => (relay, .done (.dismissal taken))
  | .response request => relay.enter (.answer request .overlay)

end Relay

end Scoreboard
