import Scoreboard.Cache.Rounds
import Scoreboard.Http.Request
import Scoreboard.Hub
import Scoreboard.LiveEvent
import Scoreboard.Pacing.Limiter
import Scoreboard.Pacing.PollDelay
import Scoreboard.Podium

/-! Where the tasks of the relay stand while they wait, and what comes out of them. -/

namespace Scoreboard

/-- The timers that change the overlay when they run out. -/
inductive OverlayTimer
  /-- Takes the banner of a generation down. -/
  | bannerExpiry (generation : UInt64)
  /-- Turns the backdrop of a generation into fireworks. -/
  | pyroReveal (generation : UInt64)
  /-- Ends the animation of a generation. -/
  | pyroEnd (generation : UInt64)
deriving DecidableEq, Repr

/-- Tasks that can be started. -/
inductive NewTask
  /-- Keeps asking where the game stands. -/
  | poller
  /-- Loads the team directory once. -/
  | teamLoader
  /-- Fetches the round of every newest tick. -/
  | follower
  /-- Hands live events on at a bearable pace. -/
  | dispatcher
  /-- Celebrates the end of the game at a tick. -/
  | gameOver (tick : Tick)
  | timer (timer : OverlayTimer)
deriving DecidableEq, Repr

/-- What a round is wanted for. -/
inductive RankingUse
  /-- To be handed out. -/
  | plain
  /-- To be the body of a response. -/
  | response
  /-- To be in the cache, for the follower that has seen a version of the newest tick. -/
  | follow (seen : Nat)
  /-- To get its podium. -/
  | gameOver
deriving DecidableEq, Repr

/-- What a point history is wanted for. -/
inductive HistoryUse
  | plain
  | totals
  | response
  | totalsResponse
deriving DecidableEq, Repr

/-- What attack statistics are wanted for. -/
inductive StatsUse
  | plain
  | response
deriving DecidableEq, Repr

/-- Who hands a live event on. -/
inductive EventUse
  | plain
  /-- The dispatcher, which then goes on listening. -/
  | dispatch (limiter : Limiter) (position : Nat)
deriving DecidableEq, Repr

/-- Who takes the banner down. -/
inductive DismissalUse
  | plain
  /-- A request, which is answered with what is left of the overlay. -/
  | response (request : Request)
deriving DecidableEq, Repr

/-- What a task does once it has got hold of a part of the shared state. -/
inductive Step
  /-- Takes in the response to a poll, one of many or the only one. -/
  | absorbState (again : Bool) (response : StateResponse)
  | storeTeams (document : TeamsDocument)
  /-- Processes a round that is in the cache, if it is the newest. -/
  | settleRound (use : RankingUse) (tick : Tick) (snapshot : Snapshot)
  | lookUpHistory (use : HistoryUse) (team : TeamId)
  /-- Finds the names for the podium of the last round. -/
  | nameWinners (tick : Tick) (round : Round)
  | keepPodium (winners : List PodiumEntry)
  /-- Looks whether the preferences allow the animation. -/
  | weighPyro (winners : List PodiumEntry)
  | playPyro (winners : List PodiumEntry)
  /-- Looks whether the preferences allow a banner. -/
  | weighBanner (use : EventUse) (service team : String)
  | showBanner (use : EventUse) (service team : String)
  | dismissBanner (use : DismissalUse)
  /-- Changes the overlay when a timer has run out. -/
  | runOut (timer : OverlayTimer)
  /-- Takes a document as the state of the game. -/
  | replaceState (current : CurrentState)
  | answer (request : Request) (route : Route)
  /-- Changes nothing. -/
  | look

/-- Where a task stands while it waits. -/
inductive Stage
  /-- In front of its first turn. -/
  | starting (task : NewTask)
  /-- In front of so many parts of the shared state, and what it does behind them. -/
  | entering (parts : Nat) (step : Step)
  /-- Before a moment. -/
  | sleeping (deadline : Nat)
  /-- Asking where the game stands, once or again and again. -/
  | polling (again : Bool)
  /-- Between two polls. -/
  | resting (deadline : Nat)
  /-- Asking for the team directory after so many retries. -/
  | loadingTeams (retry : Nat)
  /-- Before a retry for the team directory. -/
  | pausingTeams (retry deadline : Nat)
  /-- Before a fresh series of attempts at the team directory. -/
  | restingTeams (deadline : Nat)
  /-- Asking for a round after so many retries. -/
  | fetchingRound (use : RankingUse) (tick : Tick) (retry : Nat)
  /-- Before a retry for a round. -/
  | pausingRound (use : RankingUse) (tick : Tick) (retry deadline : Nat)
  /-- Asking for a point history after so many retries. -/
  | fetchingHistory (use : HistoryUse) (team : TeamId) (retry : Nat)
  /-- Before a retry for a point history. -/
  | pausingHistory (use : HistoryUse) (team : TeamId) (retry deadline : Nat)
  /-- Asking for attack statistics after so many retries. -/
  | fetchingStats (use : StatsUse) (retry : Nat)
  /-- Before a retry for attack statistics. -/
  | pausingStats (use : StatsUse) (retry deadline : Nat)
  /-- The follower, until the newest tick is written again. -/
  | watching (seen : Nat)
  /-- The end of the game, until its tick is published. -/
  | awaitingTick (tick : Tick)
  /-- The dispatcher, until an event comes. -/
  | listening (limiter : Limiter) (position : Nat)
  /-- The dispatcher, until it may hand an event on. -/
  | holding (limiter : Limiter) (position : Nat) (event : LiveEvent) (deadline : Nat)
  /-- A timer that runs. -/
  | timing (timer : OverlayTimer) (deadline : Nat)

/-- What a stage waits for. -/
inductive Wait
  /-- Nothing: its turn may come at once. -/
  | turn
  /-- A part of the shared state, which is always free between two steps. -/
  | part
  /-- The reply to a request. -/
  | reply (endpoint : Endpoint)
  /-- A moment. -/
  | time (deadline : Nat)
  /-- An event behind a position of the bus. -/
  | event (position : Nat)
  /-- Another version of the newest tick. -/
  | newestTick (seen : Nat)
  /-- A newest tick from some tick on. -/
  | tick (least : Tick)
deriving DecidableEq, Repr

/-- What a stage waits for. -/
def Stage.wait : Stage → Wait
  | .starting _ => .turn
  | .entering _ _ => .part
  | .polling _ => .reply .currentState
  | .loadingTeams _ => .reply .teams
  | .fetchingRound _ tick _ => .reply (.round tick)
  | .fetchingHistory _ team _ => .reply (.teamHistory team)
  | .fetchingStats _ _ => .reply .serviceStats
  | .sleeping deadline | .resting deadline | .pausingTeams _ deadline | .restingTeams deadline
  | .pausingRound _ _ _ deadline | .pausingHistory _ _ _ deadline | .pausingStats _ _ deadline
  | .holding _ _ _ deadline | .timing _ deadline => .time deadline
  | .watching seen => .newestTick seen
  | .awaitingTick tick => .tick tick
  | .listening _ position => .event position

/-- What comes out of a task that has ended. -/
inductive Outcome
  /-- Nothing anybody waits for. -/
  | nothing
  /-- How long to wait after a poll. -/
  | delay (span : Span)
  | ranking (result : Except ServiceError Snapshot)
  | history (result : Except ServiceError PointHistory)
  | totals (result : Except ServiceError (List Float))
  | stats (result : Except ServiceError (List (List ServiceStat)))
  | podium (result : Except ServiceError (List PodiumEntry))
  /-- Whether there was a banner to take down. -/
  | dismissal (taken : Bool)
  | response (response : Response)
  /-- A response that goes on for ever. -/
  | stream
  /-- Nothing: the task broke off over a number that no word holds. -/
  | brokenOff

/-- How a turn ends. -/
inductive Next
  | wait (stage : Stage)
  | done (outcome : Outcome)

/-- A moment: milliseconds since the relay was started, and the Unix time in milliseconds. -/
structure Moment where
  elapsed : Nat
  unix : Int
deriving DecidableEq, Repr

/-- What is asked of the relay from outside. -/
inductive Call
  | start (task : NewTask)
  /-- Asks once where the game stands. -/
  | poll
  | request (request : Request)
  | ranking (tick : Tick)
  | history (team : TeamId)
  | totals (team : TeamId)
  | stats
  /-- Hands an event on at once. -/
  | event (event : LiveEvent)
  /-- Takes the banner down. -/
  | dismiss

/-- What a turn does to other tasks, in the order in which it happens. -/
inductive Signal
  /-- An event is on the bus. -/
  | event (event : LiveEvent)
  /-- The newest tick is written. -/
  | newestTick (tick : Tick)
  /-- An event goes to the dashboards. -/
  | broadcast (event : ServerEvent)
  /-- A task is started. -/
  | start (task : NewTask)
deriving DecidableEq, Repr

end Scoreboard
