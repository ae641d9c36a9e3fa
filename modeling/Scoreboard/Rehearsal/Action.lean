import Scoreboard.Rehearsal.Dashboard

/-! Commands of a rehearsal, from their first turns to their results. -/

namespace Scoreboard

namespace Rehearsal

/-- The rehearsal with a daemon started. -/
def spawn (rehearsal : Rehearsal) (daemon : Daemon) : Rehearsal :=
  { rehearsal with daemons := rehearsal.daemons.insert daemon rehearsal.nextTask }.addTask
    (.relay ⟨.starting daemon.task, none⟩)

/-- The rehearsal without a daemon. -/
def abort (rehearsal : Rehearsal) (daemon : Daemon) : Rehearsal :=
  match rehearsal.daemons.get? daemon with
  | none => rehearsal
  | some id =>
    { rehearsal with daemons := rehearsal.daemons.erase daemon }.dropTasks fun task => task.id = id

/-- The rehearsal with other scripted responses for some paths. -/
def rewriteScript (rehearsal : Rehearsal) (script : List (String × List ScriptedReply)) : Rehearsal :=
  { rehearsal with script := script.foldl (fun t entry => t.insert entry.1 entry.2) rehearsal.script }

/-- How an action begins. -/
inductive Beginning
  /-- With a turn of the relay. -/
  | turn (next : Next)
  /-- With a wait for the end of a task. -/
  | awaiting (task : Nat)
  /-- With its end. -/
  | ended (result : Result)

/-- The first turn of an action. -/
def beginAction (rehearsal : Rehearsal) (action : Action) : Rehearsal × Beginning :=
  let relay := rehearsal.relay
  let ended (relay : Relay) (result : Result) : Rehearsal × Beginning :=
    (rehearsal.withRelay relay, .ended result)
  let turn (result : Relay × Next) : Rehearsal × Beginning :=
    (rehearsal.withRelay result.1, .turn result.2)
  let wait (stage : Stage) : Rehearsal × Beginning := (rehearsal, .turn (.wait stage))
  let call (call : Call) : Rehearsal × Beginning := turn (relay.receive rehearsal.now call)
  match action with
  | .advance milliseconds => wait (.sleeping (rehearsal.elapsed + milliseconds))
  | .poll => call .poll
  | .request request => call (.request request)
  | .ranking tick => call (.ranking tick)
  | .history team => call (.history team)
  | .totals team => call (.totals team)
  | .stats => call .stats
  | .gameOver tick => wait (.awaitingTick tick)
  | .handleEvent event => call (.event event)
  | .dismiss => call .dismiss
  | .emit event => ended (relay.emit event) .nothing
  | .publish tick => ended (relay.publish tick) .nothing
  | .info message => ended (relay.broadcast (.info message)) .nothing
  | .updateDegraded degraded =>
    let (relay, news) := relay.updateDegraded degraded
    ended relay (.flag news)
  | .setLive document =>
    match Codec.currentState.ofText document with
    | .ok current => wait (.entering 1 (.replaceState current))
    | .error problem => ended relay (.undecodable problem)
  | .putHistory team history =>
    ended { relay with histories := relay.histories.put team history } .nothing
  | .invalidateRound tick => ended { relay with rounds := relay.rounds.invalidate tick } .nothing
  | .backend script => (rehearsal.rewriteScript script, .ended .nothing)
  | .spawn daemon => (rehearsal.spawn daemon, .ended .nothing)
  | .abort daemon => (rehearsal.abort daemon, .ended .nothing)
  | .finish id =>
    -- A result can be waited for once, and only the newest of its name.
    match rehearsal.started.get? id with
    | none => (rehearsal, .ended .nothing)
    | some task => ({ rehearsal with started := rehearsal.started.erase id }, .awaiting task)
  | .connect id stalled => (rehearsal.connect id stalled, .ended (.status 200))
  | .unstall id => (rehearsal.unstall id, .ended .nothing)
  | .readChunks id =>
    let (rehearsal, chunks) := rehearsal.takeChunks id
    (rehearsal, .ended (.chunks chunks))
  | .close id => (rehearsal.disconnect id, .ended .nothing)
  | .abandon => ended relay.joinDashboard.1 (.status 200)
  -- The game, the overlay and the teams are looked at one by one.
  | .inspect _ _ => wait (.entering 3 .look)

/-- The result of something that may fail. -/
def resultOf {α : Type} (wrap : α → Result) : Except ServiceError α → Result
  | .ok value => wrap value
  | .error problem => .failure problem

/-- Where an action stands after a turn of the relay with an outcome. -/
def settleAction (rehearsal : Rehearsal) (action : Action) (outcome : Outcome) :
    Rehearsal × Underway :=
  match outcome, action with
  | .nothing, .inspect ticks teams =>
    (rehearsal, .ended (.inspection ⟨rehearsal.relay, ticks, teams, rehearsal.requestCounts⟩))
  | .nothing, _ => (rehearsal, .ended .nothing)
  | .delay span, _ => (rehearsal, .ended (.delay span))
  | .ranking (.error problem), _ => (rehearsal, .ended (.failure problem))
  | .ranking (.ok snapshot), .ranking tick =>
    -- A round is the same when the round last handed out for the tick has its serial number.
    ({ rehearsal with handedOut := rehearsal.handedOut.insert tick snapshot.serial },
      .ended (.ranking snapshot.round.tick
        (rehearsal.handedOut.get? tick == some snapshot.serial)))
  | .ranking (.ok snapshot), _ => (rehearsal, .ended (.ranking snapshot.round.tick false))
  | .history result, _ => (rehearsal, .ended (resultOf .history result))
  | .totals result, _ => (rehearsal, .ended (resultOf .totals result))
  | .stats result, _ => (rehearsal, .ended (resultOf .stats result))
  | .podium result, _ => (rehearsal, .ended (resultOf .podium result))
  | .dismissal taken, _ => (rehearsal, .ended (.flag taken))
  | .response response, .request request =>
    (rehearsal, .ended (.response (request.present response)))
  | .response response, _ => (rehearsal, .ended (.response response))
  | .stream, .request request =>
    -- The body of a stream is read to its end, which never comes.
    (rehearsal, if request.method = .head then .ended (.response (.bare 200)) else .endless)
  | .stream, _ => (rehearsal, .endless)
  | .brokenOff, _ => (rehearsal, .ended .brokenOff)

/-- Where an action stands after a stage of it was run, with what is left of the allowance. -/
def afterRun (action : Action) : Rehearsal × Nat × Ended → Rehearsal × Nat × Underway
  | (rehearsal, allowance, .held held) => (rehearsal, allowance, .held action held)
  | (rehearsal, allowance, .done outcome) =>
    let (rehearsal, underway) := rehearsal.settleAction action outcome
    (rehearsal, allowance, underway)

/-- Where a wait for a task stands, with what is left of the allowance. -/
def lookForResult (rehearsal : Rehearsal) (allowance task : Nat) : Rehearsal × Nat × Underway :=
  match allowance, rehearsal.finished.get? task with
  | allowance + 1, some result =>
    ({ rehearsal with finished := rehearsal.finished.erase task }, allowance, .ended result)
  | allowance, _ => (rehearsal, allowance, .awaiting task)

/-- Whether a command has broken off, and with it the task it is a part of. -/
def isBrokenOff : Underway → Bool
  | .ended .brokenOff => true
  | _ => false

/-- The results of commands, none as long as one is not over. -/
def resultsOf? : List Underway → Option (List Result)
  | [] => some []
  | .ended result :: members => (resultsOf? members).map (result :: ·)
  | _ :: _ => none

mutual

/-- A command carried on as far as it goes now, with what is left of the allowance. -/
def carryOn : Underway → Nat → Rehearsal → Rehearsal × Nat × Underway
  | .fresh action, allowance, rehearsal =>
    match rehearsal.beginAction action with
    | (rehearsal, .ended result) => (rehearsal, allowance, .ended result)
    | (rehearsal, .awaiting task) => rehearsal.lookForResult allowance task
    | (rehearsal, .turn (.done outcome)) => afterRun action (rehearsal, allowance, .done outcome)
    | (rehearsal, .turn (.wait stage)) =>
      afterRun action (runStage allowance ⟨stage, none⟩ rehearsal)
  | .starting id command, allowance, rehearsal =>
    ({ rehearsal with started := rehearsal.started.insert id rehearsal.nextTask }.addTask
        (.command command.underway),
      allowance, .ended .nothing)
  | .held action held, allowance, rehearsal => afterRun action (runStage allowance held rehearsal)
  | .awaiting task, allowance, rehearsal => rehearsal.lookForResult allowance task
  | .endless, allowance, rehearsal => (rehearsal, allowance, .endless)
  | .ended result, allowance, rehearsal => (rehearsal, allowance, .ended result)
  | .together members, allowance, rehearsal =>
    -- Commands that were begun together share one allowance, in their order.
    let (rehearsal, allowance, members) := carryAllOn members allowance rehearsal
    (rehearsal, allowance,
      if members.any isBrokenOff then .ended .brokenOff
      else match resultsOf? members with
        | some results => .ended (.together results)
        | none => .together members)

/-- Commands carried on in order as far as they go now, with what is left of the allowance. -/
def carryAllOn : List Underway → Nat → Rehearsal → Rehearsal × Nat × List Underway
  | [], allowance, rehearsal => (rehearsal, allowance, [])
  | member :: members, allowance, rehearsal =>
    let (rehearsal, allowance, member) := carryOn member allowance rehearsal
    let (rehearsal, allowance, members) := carryAllOn members allowance rehearsal
    (rehearsal, allowance, member :: members)

end

mutual

/-- Whether a command would get further now. -/
def isReady (rehearsal : Rehearsal) : Underway → Bool
  | .fresh _ | .starting _ _ => true
  | .held _ held => held.isReady rehearsal
  | .awaiting task => (rehearsal.finished.get? task).isSome
  | .endless | .ended _ => false
  | .together members => anyReady rehearsal members

/-- Whether one of some commands would get further now. -/
def anyReady (rehearsal : Rehearsal) : List Underway → Bool
  | [] => false
  | member :: members => isReady rehearsal member || anyReady rehearsal members

end

end Rehearsal

end Scoreboard
