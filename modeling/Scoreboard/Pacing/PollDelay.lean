import Scoreboard.Decimal.Dyadic
import Scoreboard.Document.CurrentState
import Scoreboard.Word

/-! How long to wait before the backend is asked for the state of the game again. -/

namespace Scoreboard

/-- A length of time in nanoseconds. -/
structure Span where
  nanoseconds : Nat
deriving DecidableEq, Repr

/-- A number of seconds. -/
def Span.ofSeconds (seconds : Nat) : Span :=
  ⟨seconds * 1000000000⟩

/-- The whole seconds of a length of time. -/
def Span.wholeSeconds (span : Span) : Nat :=
  span.nanoseconds / 1000000000

/-- What a length of time holds beyond its whole seconds. -/
def Span.subsecond (span : Span) : Nat :=
  span.nanoseconds % 1000000000

/-- The milliseconds after which a length of time has passed. -/
def Span.milliseconds (span : Span) : Nat :=
  (span.nanoseconds + 999999) / 1000000

/-- The jitter added to a short wait: half a second at most, to the nearest nanosecond. -/
def jitterSpan (jitter : Float) : Span :=
  let share := if jitter < 0.0 then 0.0 else if jitter > 1.0 then 1.0 else jitter
  ⟨(Dyadic.ofFloat (share * 0.5)).roundTimes 1000000000⟩

/-- How long to wait near the end of a tick, by the phase of the game. -/
def GamePhase.shortWait (phase : GamePhase) (jitter : Float) : Span :=
  match phase with
  | .running => ⟨(Span.ofSeconds 1).nanoseconds + (jitterSpan jitter).nanoseconds⟩
  | .suspended => .ofSeconds 5
  | .stopped => .ofSeconds 10

/-- How long to wait after a poll at a Unix second, none when the numbers leave the range. -/
def nextPollDelay? (current : CurrentState) (now : Int64) (jitter : Float) : Option Span := do
  -- Near the end of the tick, or behind on scoreboards, the phase decides; else the time left.
  let remaining ← difference? current.currentTickUntil now
  let tickBefore ← difference? current.currentTick 1
  if remaining < 2 ∨ current.scoreboardTick < tickBefore then
    some (current.state.shortWait jitter)
  else some (.ofSeconds (min remaining 10).toInt.toNat)

/-- How long to wait after a poll that failed. -/
def failedPollDelay : Span :=
  .ofSeconds 5

/-- How long to wait after a poll that saw the game stop. -/
def finalPollDelay : Span :=
  .ofSeconds 2

end Scoreboard
