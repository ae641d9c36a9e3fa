import Scoreboard.Forwarder
import Scoreboard.Rehearsal.Command

/-! A rehearsal: the relay on virtual time, with a scripted backend and dashboards that can be watched. -/

namespace Scoreboard

/-- A stage together with the reply that is on its way to it. -/
structure Held where
  stage : Stage
  /-- The reply and the moment at which it arrives. -/
  incoming : Option (Reply × Nat)

/-- Whether a stage waits for the bus. -/
def Held.waitsForEvent (held : Held) : Bool :=
  match held.stage.wait with
  | .event _ => true
  | _ => false

/-- Whether a stage waits for the newest tick. -/
def Held.waitsForTick (held : Held) : Bool :=
  match held.stage.wait with
  | .newestTick _ | .tick _ => true
  | _ => false

/-- The moment a stage waits for. -/
def Held.deadline? (held : Held) : Option Nat :=
  match held.stage.wait with
  | .reply _ => held.incoming.map Prod.snd
  | .time deadline => some deadline
  | _ => none

/-- A command under way, and where it stands. -/
inductive Underway
  /-- An action in front of its first turn. -/
  | fresh (action : Action)
  /-- A command that is to be started as a task of its own. -/
  | starting (id : String) (command : Command)
  | held (action : Action) (held : Held)
  /-- Until a task is over. -/
  | awaiting (task : Nat)
  /-- Until it is given up. -/
  | endless
  | ended (result : Result)
  | together (members : List Underway)

mutual

/-- A command before anything of it is done. -/
def Command.underway : Command → Underway
  | .one action => .fresh action
  | .start id command => .starting id command
  | .together commands => .together (underwayAll commands)

/-- Commands before anything of them is done. -/
def underwayAll : List Command → List Underway
  | [] => []
  | command :: commands => command.underway :: underwayAll commands

end

mutual

/-- The stages at which a command waits. -/
def Underway.stages : Underway → List Held
  | .held _ held => [held]
  | .together members => stagesOfAll members
  | _ => []

/-- The stages at which commands wait. -/
def stagesOfAll : List Underway → List Held
  | [] => []
  | member :: members => member.stages ++ stagesOfAll members

end

mutual

/-- Whether a command waits for a task. -/
def Underway.awaits (task : Nat) : Underway → Bool
  | .awaiting other => other = task
  | .together members => anyAwaits task members
  | _ => false

/-- Whether one of some commands waits for a task. -/
def anyAwaits (task : Nat) : List Underway → Bool
  | [] => false
  | member :: members => member.awaits task || anyAwaits task members

end

/-- What a task of a rehearsal is about. -/
inductive TaskBody
  /-- A task of the relay. -/
  | relay (held : Held)
  /-- A command that was started. -/
  | command (underway : Underway)
  /-- Watches the events of the bus. -/
  | eventWatcher (position : Nat)
  /-- Watches what goes to the dashboards. -/
  | hubWatcher (position : Nat)
  /-- Forwards events to a dashboard. -/
  | forwarder (connection : String)
  /-- Reads what a dashboard gets. -/
  | dashboard (connection : String)

/-- A task of a rehearsal. -/
structure Task where
  id : Nat
  body : TaskBody

/-- A dashboard: what is on its way to it, what it has read, and when its next keep-alive is due. -/
structure Connection where
  forwarder : Forwarder
  reading : Bool
  /-- What has been read, newest first, each with its moment. -/
  chunks : List (Nat × List Char)
  keepAlive : Nat

/-- What a watcher sees. -/
inductive Sighting (α : Type)
  | seen (value : α)
  /-- So many were missed. -/
  | lagged (count : Nat)

/-- What a watcher makes of what it receives. -/
def Received.sighting? {α : Type} : Received α → Option (Sighting α)
  | .empty => none
  | .message value => some (.seen value)
  | .lagged count => some (.lagged count)

/-- A rehearsal in progress. -/
structure Rehearsal where
  relay : Relay
  /-- The Unix time in milliseconds at which it began. -/
  beginning : Int
  /-- How many milliseconds it has been going on. -/
  elapsed : Nat
  /-- Where the backend serves a document. -/
  address : Endpoint → String
  /-- The replies each path has left; the last one stays. -/
  script : Table String (List ScriptedReply)
  /-- The paths requested from the backend, newest first. -/
  requests : List String
  nextTask : Nat
  /-- The tasks that wait, in the order in which they began to. -/
  waiting : List Task
  /-- The tasks whose turn has come, in order. -/
  ready : List Task
  /-- The tasks that have used up their turn and get another one later, the last one first. -/
  deferred : List Task
  /-- The newest task of each kind of daemon. -/
  daemons : Table Daemon Nat
  connections : Table String Connection
  /-- The started commands nobody has waited for yet, each with its task. -/
  started : Table String Nat
  /-- The results of the tasks of started commands that are over. -/
  finished : Table Nat Result
  /-- The serial number of the round last handed out for each tick. -/
  handedOut : Table Tick Nat
  /-- Events seen since the last command, newest first. -/
  events : List (Nat × Sighting LiveEvent)
  /-- What went to the dashboards since the last command, newest first. -/
  broadcasts : List (Nat × Sighting ServerEvent)

/-- Whether what a stage waits for is there. -/
def Held.isReady (held : Held) (rehearsal : Rehearsal) : Bool :=
  match held.stage.wait with
  | .reply _ =>
    match held.incoming with
    | none => true
    | some (_, arrival) => arrival ≤ rehearsal.elapsed
  | wait => rehearsal.relay.meets rehearsal.elapsed wait

namespace Rehearsal

/-- A rehearsal that begins at a Unix time in milliseconds. -/
def begin (beginning : Int) (notificationInterval : Nat) (showNotifications : Bool) : Rehearsal where
  relay := .initial notificationInterval
    { Preferences.standard with showNotifications := showNotifications }
  beginning := beginning
  elapsed := 0
  address := Endpoint.path
  script := .empty
  requests := []
  nextTask := 2
  waiting := [⟨0, .eventWatcher 0⟩, ⟨1, .hubWatcher 0⟩]
  ready := []
  deferred := []
  daemons := .empty
  connections := .empty
  started := .empty
  finished := .empty
  handedOut := .empty
  events := []
  broadcasts := []

/-- The present moment. -/
def now (rehearsal : Rehearsal) : Moment :=
  ⟨rehearsal.elapsed, rehearsal.beginning + rehearsal.elapsed⟩

/-- How often each path was requested from the backend. -/
def requestCounts (rehearsal : Rehearsal) : Table String Nat :=
  rehearsal.requests.reverse.foldl (fun counts path =>
    counts.insert path ((counts.get? path).getD 0 + 1)) .empty

/-- The rehearsal with one more task, whose turn comes last. -/
def addTask (rehearsal : Rehearsal) (body : TaskBody) : Rehearsal :=
  { rehearsal with
    ready := rehearsal.ready ++ [⟨rehearsal.nextTask, body⟩]
    nextTask := rehearsal.nextTask + 1 }

/-- The rehearsal with a task that waits from now on. -/
def park (rehearsal : Rehearsal) (id : Nat) (body : TaskBody) : Rehearsal :=
  { rehearsal with waiting := rehearsal.waiting ++ [⟨id, body⟩] }

/-- The rehearsal in which the turn of some of the waiting tasks has come. -/
def wake (rehearsal : Rehearsal) (wakes : TaskBody → Bool) : Rehearsal :=
  let (woken, waiting) := rehearsal.waiting.partition fun task => wakes task.body
  { rehearsal with waiting := waiting, ready := rehearsal.ready ++ woken }

/-- Whether an event on the bus wakes a task. -/
def wokenByEvent : TaskBody → Bool
  | .relay held => held.waitsForEvent
  | .command underway => underway.stages.any Held.waitsForEvent
  | .eventWatcher _ => true
  | _ => false

/-- Whether another newest tick wakes a task. -/
def wokenByTick : TaskBody → Bool
  | .relay held => held.waitsForTick
  | .command underway => underway.stages.any Held.waitsForTick
  | _ => false

/-- Whether an event to the dashboards wakes a task. -/
def wokenByBroadcast (rehearsal : Rehearsal) : TaskBody → Bool
  | .hubWatcher _ => true
  | .forwarder connection =>
    -- A forwarder that waits for room does not listen.
    ((rehearsal.connections.get? connection).map fun c => c.forwarder.handing.isNone).getD false
  | _ => false

/-- The rehearsal after one signal of a turn. -/
def applySignal (rehearsal : Rehearsal) : Signal → Rehearsal
  | .event _ => rehearsal.wake wokenByEvent
  | .newestTick _ => rehearsal.wake wokenByTick
  | .broadcast _ => rehearsal.wake rehearsal.wokenByBroadcast
  | .start task => rehearsal.addTask (.relay ⟨.starting task, none⟩)

/-- The rehearsal with the relay as a turn left it, whose signals reach the other tasks. -/
def withRelay (rehearsal : Rehearsal) (relay : Relay) : Rehearsal :=
  relay.signals.foldl applySignal { rehearsal with relay := relay.clearSignals }

/-- The rehearsal after a request for a document, and the reply with the moment of its arrival. -/
def requestReply (rehearsal : Rehearsal) (endpoint : Endpoint) : Rehearsal × Reply × Nat :=
  -- The reply is chosen when the request is made, and the last one of a path is used for ever.
  let path := rehearsal.address endpoint
  let rehearsal := { rehearsal with requests := path :: rehearsal.requests }
  match rehearsal.script.get? path with
  | some (first :: second :: rest) =>
    ({ rehearsal with script := rehearsal.script.insert path (second :: rest) }, first.reply,
      rehearsal.elapsed + first.delay)
  | some [last] => (rehearsal, last.reply, rehearsal.elapsed + last.delay)
  | _ => (rehearsal, .answered 404 none (some []), rehearsal.elapsed)

/-- The rehearsal in which the turn of all deferred tasks has come. -/
def wakeDeferred (rehearsal : Rehearsal) : Rehearsal :=
  { rehearsal with ready := rehearsal.ready ++ rehearsal.deferred, deferred := [] }

/-- Where a run of a stage ends: at a stage that waits, or with what came out. -/
inductive Ended
  | held (held : Held)
  | done (outcome : Outcome)

/-- How many waits a task gets past before others have their turn. -/
def turnAllowance : Nat := 128

/-- A stage run on, in at most so many steps, with what is left of an allowance of waits. -/
def runSteps : Nat → Nat → Held → Rehearsal → Rehearsal × Nat × Ended
  | 0, allowance, held, rehearsal => (rehearsal, allowance, .held held)
  | steps + 1, allowance, held, rehearsal =>
    let goOn (allowance : Nat) : Rehearsal × Next → Rehearsal × Nat × Ended
      | (rehearsal, .done outcome) => (rehearsal, allowance, .done outcome)
      | (rehearsal, .wait stage) => runSteps steps allowance ⟨stage, none⟩ rehearsal
    let turn (result : Relay × Next) : Rehearsal × Next := (rehearsal.withRelay result.1, result.2)
    match held.stage.wait, held.incoming with
    | .turn, _ => goOn allowance (turn (rehearsal.relay.resume rehearsal.now 0.0 held.stage))
    | .reply endpoint, none =>
      -- A reply that takes no time is there without a wait.
      let (rehearsal, reply, arrival) := rehearsal.requestReply endpoint
      if arrival ≤ rehearsal.elapsed then
        let (relay, next) := rehearsal.relay.resumeWithReply rehearsal.elapsed reply held.stage
        goOn allowance (rehearsal.withRelay relay, next)
      else (rehearsal, allowance, .held ⟨held.stage, some (reply, arrival)⟩)
    | wait, incoming =>
      match allowance with
      | 0 => (rehearsal, 0, .held held)
      | allowance + 1 =>
        if !held.isReady rehearsal then (rehearsal, allowance + 1, .held held)
        else match wait, incoming with
          | .reply _, some (reply, _) =>
            goOn allowance
              (turn (rehearsal.relay.resumeWithReply rehearsal.elapsed reply held.stage))
          | _, _ => goOn allowance (turn (rehearsal.relay.resume rehearsal.now 0.0 held.stage))

/-- A stage run on as far as it goes now, with what is left of an allowance of waits. -/
def runStage (allowance : Nat) (held : Held) (rehearsal : Rehearsal) : Rehearsal × Nat × Ended :=
  -- A first turn or a prompt reply comes without a wait, but never two of them in a row.
  runSteps (2 * allowance + 3) allowance held rehearsal

end Rehearsal

end Scoreboard
