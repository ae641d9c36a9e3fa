import Scoreboard.Relay.State

/-! Asking the backend where the game stands, and telling everybody what changed. -/

namespace Scoreboard

namespace Relay

/-- The relay after it has told what a response to a poll changed, and how long to wait. -/
def tellTransition (relay : Relay) (current : CurrentState) (transition : Transition)
    (delay : Span) : Relay × Span :=
  -- The end of the game is told before the tick, and it sets the next poll.
  let (relay, delay) := match transition.finishedAt with
    | some tick => (relay.emit (.final tick), finalPollDelay)
    | none => (relay, delay)
  match transition.scoreboardTickChanged with
  | some tick => ((relay.publish tick).broadcast (.scoreboardTick current), delay)
  | none => (relay, delay)

/-- The relay after a response to a poll, and how long to wait, none when the poll broke off. -/
def absorbState (relay : Relay) (response : StateResponse) (now : Int) (jitter : Float) :
    Relay × Option Span :=
  -- A poll that breaks off has taken the document in, and tells nobody.
  let transition := relay.live.transitionTo response.state
  let relay := { relay with live := relay.live.apply response now, degraded := false }
  match nextPollDelay? response.state (unixSecondOf now) jitter with
  | none => (relay, none)
  | some delay =>
    let (relay, delay) := relay.tellTransition response.state transition delay
    (relay, some delay)

/-- The relay after a poll that failed, which is told when the one before did not. -/
def missState (relay : Relay) : Relay :=
  match relay.updateDegraded true with
  | (relay, true) => relay.broadcast (.info "scoreboard backend unreachable")
  | (relay, false) => relay

/-- The end of a poll: its task has broken off, or there is a rest if there is another poll. -/
def afterPoll (relay : Relay) (again : Bool) (delay : Option Span) (now : Nat) : Relay × Next :=
  match delay with
  | none => (relay, .done .brokenOff)
  | some delay =>
    if again then (relay, .wait (.resting (now + delay.milliseconds)))
    else (relay, .done (.delay delay))

/-- The turn of a poll whose request came to an end. -/
def continuePoll (relay : Relay) (again : Bool) (now : Nat) :
    Except ApiError StateResponse → Relay × Next
  | .ok response => relay.enter (.absorbState again response)
  | .error _ => relay.missState.afterPoll again (some failedPollDelay) now

end Relay

end Scoreboard
