import Scoreboard.Rehearsal.Action

/-! The run of a rehearsal: tasks take turns in order, and time moves on when nobody has a turn. -/

namespace Scoreboard

namespace Rehearsal

/-- The turn of a task that watches the bus. -/
def watchEvents (rehearsal : Rehearsal) (id position : Nat) : Rehearsal :=
  let (received, position) := rehearsal.relay.bus.events.drain position
  let seen := (received.filterMap Received.sighting?).map fun s => (rehearsal.elapsed, s)
  { rehearsal with events := seen.reverse ++ rehearsal.events }.park id (.eventWatcher position)

/-- The turn of a task that watches what goes to the dashboards. -/
def watchHub (rehearsal : Rehearsal) (id position : Nat) : Rehearsal :=
  let (received, position) := rehearsal.relay.hub.channel.drain position
  let seen := (received.filterMap Received.sighting?).map fun s => (rehearsal.elapsed, s)
  { rehearsal with broadcasts := seen.reverse ++ rehearsal.broadcasts }.park id (.hubWatcher position)

/-- A task after a turn with what is left of its allowance: it waits, or has used up its turn. -/
def parkOrDefer (rehearsal : Rehearsal) (task allowance : Nat) (body : TaskBody) : Rehearsal :=
  if allowance = 0 then { rehearsal with deferred := ⟨task, body⟩ :: rehearsal.deferred }
  else rehearsal.park task body

/-- Whether a task waits for the end of another one. -/
def awaitsTask (task : Nat) : TaskBody → Bool
  | .command underway => underway.awaits task
  | _ => false

/-- The turn of a task. -/
def runTask (rehearsal : Rehearsal) (task : Task) : Rehearsal :=
  match task.body with
  | .relay held =>
    match runStage turnAllowance held rehearsal with
    | (rehearsal, allowance, .held held) => rehearsal.parkOrDefer task.id allowance (.relay held)
    | (rehearsal, _, .done _) => rehearsal
  | .command underway =>
    match carryOn underway turnAllowance rehearsal with
    | (rehearsal, _, .ended result) =>
      { rehearsal with finished := rehearsal.finished.insert task.id result }.wake
        (awaitsTask task.id)
    | (rehearsal, allowance, underway) =>
      rehearsal.parkOrDefer task.id allowance (.command underway)
  | .eventWatcher position => rehearsal.watchEvents task.id position
  | .hubWatcher position => rehearsal.watchHub task.id position
  | .forwarder connection => rehearsal.forward task.id connection
  | .dashboard connection => rehearsal.read task.id connection

/-- The rehearsal after at most so many turns of the tasks whose turn has come. -/
def runTasks : Nat → Rehearsal → Rehearsal
  | 0, rehearsal => rehearsal
  | turns + 1, rehearsal =>
    match rehearsal.ready with
    | [] => rehearsal
    | task :: ready => runTasks turns ({ rehearsal with ready := ready }.runTask task)

/-- How many turns there are before the deferred tasks and the command at hand have theirs. -/
def roundLength : Nat := 61

/-- The rehearsal after one round of turns. -/
def runRound (rehearsal : Rehearsal) : Rehearsal :=
  (rehearsal.runTasks roundLength).wakeDeferred

/-- Whether no task has a turn. -/
def isQuiet (rehearsal : Rehearsal) : Bool :=
  rehearsal.ready.isEmpty && rehearsal.deferred.isEmpty

/-- The rehearsal after at most so many rounds. -/
def drainFor : Nat → Rehearsal → Rehearsal
  | 0, rehearsal => rehearsal
  | rounds + 1, rehearsal =>
    if rehearsal.isQuiet then rehearsal else drainFor rounds rehearsal.runRound

/-- How many rounds there may be for one command; no rehearsal comes near. -/
def drainLimit : Nat := 1000000

/-- The rehearsal once nobody has a turn any more. -/
def drain (rehearsal : Rehearsal) : Rehearsal :=
  drainFor drainLimit rehearsal

/-- The moments a task waits for. -/
def deadlinesOf (rehearsal : Rehearsal) : TaskBody → List Nat
  | .relay held => held.deadline?.toList
  | .command underway => underway.stages.filterMap Held.deadline?
  | .dashboard name => ((rehearsal.connections.get? name).map Connection.keepAlive).toList
  | _ => []

/-- The least of some moments. -/
def earliest (moments : List Nat) : Option Nat :=
  moments.foldl (fun least moment => some (min moment (least.getD moment))) none

/-- The rehearsal at a later moment, when those who waited for it have their turn. -/
def moveTo (rehearsal : Rehearsal) (moment : Nat) : Rehearsal :=
  let later := { rehearsal with elapsed := moment }
  later.wake fun body => (later.deadlinesOf body).any fun deadline => deadline ≤ moment

/-- How long a command may take, in milliseconds. -/
def patience : Nat := 600000

/-- A command carried on until it is over, or until the limit. -/
def perform (limit : Nat) : Nat → Underway → Rehearsal → Rehearsal × Option Result
  | 0, _, rehearsal => (rehearsal, none)
  | rounds + 1, underway, rehearsal =>
    -- The command at hand comes first, then a round of turns, and time moves on when all wait.
    match carryOn underway turnAllowance rehearsal with
    | (rehearsal, _, .ended result) => (rehearsal, some result)
    | (rehearsal, _, underway) =>
      if limit ≤ rehearsal.elapsed then (rehearsal, none)
      else
        let rehearsal := rehearsal.runRound
        if !rehearsal.isQuiet || rehearsal.isReady underway then
          perform limit rounds underway rehearsal
        else
          let moments := rehearsal.waiting.flatMap (fun task => rehearsal.deadlinesOf task.body)
            ++ underway.stages.filterMap Held.deadline?
          let next := min limit ((earliest moments).getD limit)
          perform limit rounds underway (rehearsal.moveTo next)

/-- The rehearsal after a command and all turns it leads to, and its result if it did not take too long. -/
def obey (rehearsal : Rehearsal) (command : Command) : Rehearsal × Option Result :=
  let (rehearsal, result) :=
    perform (rehearsal.elapsed + patience) drainLimit command.underway rehearsal
  (rehearsal.drain, result)

/-- What was seen since the last command, oldest first, and the rehearsal without it. -/
def takeSightings (rehearsal : Rehearsal) :
    Rehearsal × List (Nat × Sighting LiveEvent) × List (Nat × Sighting ServerEvent) :=
  ({ rehearsal with events := [], broadcasts := [] }, rehearsal.events.reverse,
    rehearsal.broadcasts.reverse)

end Rehearsal

end Scoreboard
