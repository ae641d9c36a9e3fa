import Scoreboard.Cache.Histories
import Scoreboard.EventBus
import Scoreboard.LiveState
import Scoreboard.Relay.Announcement
import Scoreboard.Relay.Stage

/-! Everything the tasks of the relay share. -/

namespace Scoreboard

/-- The state that all tasks of the relay share. -/
structure Relay where
  /-- The least distance between two notifications, in milliseconds. -/
  notificationInterval : Nat
  live : LiveState
  teams : TeamsDocument
  rounds : RoundCache
  /-- How many rounds have been fetched. -/
  fetchedRounds : Nat
  histories : HistoryCache
  bus : EventBus
  hub : Hub
  overlay : Overlay
  preferences : Preferences
  /-- Whether the backend could not be reached when it was last asked. -/
  degraded : Bool
  /-- What has been done to other tasks, oldest first, since this was last emptied. -/
  signals : List Signal

namespace Relay

/-- The relay before it does anything. -/
def initial (notificationInterval : Nat) (preferences : Preferences) : Relay where
  notificationInterval := notificationInterval
  live := .initial
  teams := .empty
  rounds := .initial
  fetchedRounds := 0
  histories := .initial
  bus := .initial
  hub := .initial
  overlay := .initial
  preferences := preferences
  degraded := true
  signals := []

/-- The relay with one more signal to other tasks. -/
def signal (relay : Relay) (signal : Signal) : Relay :=
  { relay with signals := relay.signals ++ [signal] }

/-- The relay after a task has been started. -/
def start (relay : Relay) (task : NewTask) : Relay :=
  relay.signal (.start task)

/-- The relay after an event on the bus. -/
def emit (relay : Relay) (event : LiveEvent) : Relay :=
  { relay with bus := relay.bus.emit event }.signal (.event event)

/-- The relay after another newest tick. -/
def publish (relay : Relay) (tick : Tick) : Relay :=
  { relay with bus := relay.bus.publish tick }.signal (.newestTick tick)

/-- The relay after an event to the dashboards. -/
def broadcast (relay : Relay) (event : ServerEvent) : Relay :=
  { relay with hub := relay.hub.broadcast event }.signal (.broadcast event)

/-- The relay after its overlay went to the dashboards. -/
def broadcastOverlay (relay : Relay) : Relay :=
  relay.broadcast (.overlay relay.overlay)

/-- The newest tick on the bus. -/
def newestTick (relay : Relay) : Tick :=
  relay.bus.newestTick.value

/-- The newest tick whose scoreboard is published. -/
def scoreboardTick (relay : Relay) : Tick :=
  relay.live.current.scoreboardTick

/-- The relay told whether the backend can be reached, and whether that is news. -/
def updateDegraded (relay : Relay) (degraded : Bool) : Relay × Bool :=
  ({ relay with degraded := degraded }, relay.degraded ≠ degraded)

/-- Whether what a task waits for is there, so many milliseconds after the start. -/
def meets (relay : Relay) (elapsed : Nat) : Wait → Bool
  | .turn | .part => true
  -- A reply comes from outside, and no part of the relay can tell.
  | .reply _ => false
  | .time deadline => deadline ≤ elapsed
  | .event position => position < relay.bus.events.sent
  | .newestTick seen => relay.bus.newestTick.changedSince seen
  | .tick least => least ≤ relay.newestTick

/-- The end of a turn in front of a part of the shared state. -/
def enter (relay : Relay) (step : Step) : Relay × Next :=
  (relay, .wait (.entering 1 step))

/-- The relay without the signals of the last turn. -/
def clearSignals (relay : Relay) : Relay :=
  { relay with signals := [] }

end Relay

end Scoreboard
