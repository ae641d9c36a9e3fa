import Scoreboard.Relay.Turn

/-! The commands of a rehearsal, and what they result in. -/

namespace Scoreboard

/-- A response of the scripted backend, and after how many milliseconds it comes. -/
structure ScriptedReply where
  reply : Reply
  delay : Nat
deriving DecidableEq, Repr

/-- The tasks a rehearsal can start and abort. -/
inductive Daemon
  | poller
  | teamLoader
  | follower
  | dispatcher
deriving DecidableEq, Repr

/-- The task that a daemon is. -/
def Daemon.task : Daemon → NewTask
  | .poller => .poller
  | .teamLoader => .teamLoader
  | .follower => .follower
  | .dispatcher => .dispatcher

/-- A single thing to do. -/
inductive Action
  /-- Waits for so many milliseconds. -/
  | advance (milliseconds : Nat)
  | poll
  | request (request : Request)
  | ranking (tick : Tick)
  | history (team : TeamId)
  | totals (team : TeamId)
  | stats
  | gameOver (tick : Tick)
  | handleEvent (event : LiveEvent)
  | dismiss
  | emit (event : LiveEvent)
  | publish (tick : Tick)
  | info (message : String)
  | updateDegraded (degraded : Bool)
  /-- Takes a document as the state of the game. -/
  | setLive (document : String)
  | putHistory (team : TeamId) (history : PointHistory)
  | invalidateRound (tick : Tick)
  /-- Replaces the scripted responses of paths. -/
  | backend (script : List (String × List ScriptedReply))
  | spawn (daemon : Daemon)
  | abort (daemon : Daemon)
  /-- Waits for the result of a command that was started. -/
  | finish (id : String)
  /-- Connects a dashboard, which reads what it gets unless it stalls. -/
  | connect (id : String) (stalled : Bool)
  /-- Lets a stalled dashboard read. -/
  | unstall (id : String)
  | readChunks (id : String)
  | close (id : String)
  /-- Connects a dashboard that leaves at once. -/
  | abandon
  /-- Looks at everything, and at the rounds and histories of some ticks and teams. -/
  | inspect (ticks : List Tick) (teams : List TeamId)

/-- A command of a rehearsal. -/
inductive Command
  | one (action : Action)
  /-- Starts a command as a task of its own. -/
  | start (id : String) (command : Command)
  /-- Several commands at once. -/
  | together (commands : List Command)

/-- Everything there is to see at one moment. -/
structure Inspection where
  relay : Relay
  /-- The ticks and the teams whose rounds and histories are of interest. -/
  ticks : List Tick
  teams : List TeamId
  /-- How often each path was requested from the backend. -/
  requests : Table String Nat

/-- What a command results in. -/
inductive Result
  | nothing
  | flag (value : Bool)
  | delay (span : Span)
  | response (response : Response)
  /-- The tick a round carries, and whether it is the very round handed out for the tick before. -/
  | ranking (tick : Tick) (same : Bool)
  | history (history : PointHistory)
  | totals (totals : List Float)
  | stats (stats : List (List ServiceStat))
  | podium (podium : List PodiumEntry)
  | failure (problem : ServiceError)
  | undecodable (problem : DecodeError)
  /-- It broke off over a number that no word holds. -/
  | brokenOff
  | status (status : Nat)
  /-- The chunks a dashboard got, each with its moment; none for an unknown dashboard. -/
  | chunks (chunks : Option (List (Nat × List Char)))
  | inspection (inspection : Inspection)
  | together (results : List Result)

end Scoreboard
