import Scoreboard.Calendar.HttpDate
import Scoreboard.Document.CurrentState
import Scoreboard.Word

/-! What the last polls said about the game, and how far the local clock is off. -/

namespace Scoreboard

/-- The second a Unix time in milliseconds falls into. -/
def unixSecondOf (milliseconds : Int) : Int64 :=
  Int64.ofInt (milliseconds.fdiv 1000)

/-- The state of the game as the relay knows it. -/
structure LiveState where
  current : CurrentState
  /-- How many seconds the local clock is ahead of the server's. -/
  clockDelta : Int64
  /-- The date header of the last response. -/
  lastDate : Option String
  /-- The tick at which the game was last seen to stop. -/
  finalTick : Option Tick
  /-- Whether any response has come. -/
  synced : Bool
deriving DecidableEq, Repr

/-- The state before the first response. -/
def LiveState.initial : LiveState :=
  ⟨.unknown, 0, none, none, false⟩

/-- What a response changed. -/
structure Transition where
  scoreboardTickChanged : Option Tick
  finishedAt : Option Tick
deriving DecidableEq, Repr

/-- A response to the question where the game stands. -/
structure StateResponse where
  state : CurrentState
  date : Option String
deriving DecidableEq, Repr

namespace LiveState

/-- The banned teams in ascending order. -/
def banned (live : LiveState) : List TeamId :=
  live.current.bannedSet

/-- Whether a team is banned. -/
def isBanned (live : LiveState) (team : TeamId) : Bool :=
  live.banned.contains team

/-- How far the local clock is ahead, after a response with a date header. -/
def deltaAfter (live : LiveState) (date : Option String) (now : Int) : Int64 :=
  -- A repeated header means that the response came from a cache, and a broken one says nothing.
  match date with
  | none => live.clockDelta
  | some header =>
    if live.lastDate = some header then live.clockDelta
    else match httpDateSecond header with
      | .ok second => Int64.ofInt ((now - second * 1000).fdiv 1000)
      | .error _ => live.clockDelta

/-- What the step to another document means. -/
def transitionTo (live : LiveState) (next : CurrentState) : Transition where
  scoreboardTickChanged :=
    if live.current.scoreboardTick ≠ next.scoreboardTick then some next.scoreboardTick else none
  finishedAt :=
    if live.current.state = .running ∧ next.state = .stopped then some next.currentTick else none

/-- The state after a response that came at a Unix time in milliseconds. -/
def apply (live : LiveState) (response : StateResponse) (now : Int) : LiveState where
  current := response.state
  clockDelta := live.deltaAfter response.date now
  lastDate := response.date
  finalTick := (live.transitionTo response.state).finishedAt.or live.finalTick
  synced := true

/--
The seconds left of the current tick by the server's clock, never below zero.

There are none when the numbers leave the range on the way, even where the result would be in it.
-/
def remainingSeconds? (live : LiveState) (now : Int) : Option Int64 := do
  let here ← difference? live.current.currentTickUntil (unixSecondOf now)
  let remaining ← sum? here live.clockDelta
  some (max 0 remaining)

end LiveState

end Scoreboard
