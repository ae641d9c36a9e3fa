import Scoreboard.Rehearsal.State

/-! The dashboards of a rehearsal: how they connect, read and leave. -/

namespace Scoreboard

namespace Rehearsal

/-- Whether a task reads for a dashboard. -/
def readsFor (connection : String) : TaskBody → Bool
  | .dashboard other => other = connection
  | _ => false

/-- Whether a task forwards to a dashboard. -/
def forwardsTo (connection : String) : TaskBody → Bool
  | .forwarder other => other = connection
  | _ => false

/-- The turn of a forwarder. -/
def forward (rehearsal : Rehearsal) (id : Nat) (name : String) : Rehearsal :=
  match rehearsal.connections.get? name with
  | none => rehearsal
  | some connection =>
    let forwarder := connection.forwarder.run rehearsal.relay.hub.channel
    let connection := { connection with forwarder := forwarder }
    let rehearsal := { rehearsal with connections := rehearsal.connections.insert name connection }
    let rehearsal := if forwarder.buffer.isEmpty then rehearsal else rehearsal.wake (readsFor name)
    rehearsal.park id (.forwarder name)

/-- A dashboard after it has read everything that is there at a moment. -/
def Connection.readAll (connection : Connection) (now : Nat) : Connection :=
  -- Any chunk puts off the next keep-alive; one that is overdue comes when nothing else does.
  let read := connection.forwarder.buffer.map fun event => (now, event.chunk)
  let emptied := { connection.forwarder with buffer := [] }
  if !read.isEmpty then
    { connection with
      forwarder := emptied
      chunks := read.reverse ++ connection.chunks
      keepAlive := now + keepAliveInterval }
  else if connection.keepAlive ≤ now then
    { connection with
      chunks := (now, keepAliveChunk) :: connection.chunks
      keepAlive := now + keepAliveInterval }
  else connection

/-- The turn of a dashboard. -/
def read (rehearsal : Rehearsal) (id : Nat) (name : String) : Rehearsal :=
  match rehearsal.connections.get? name with
  | none => rehearsal
  | some connection =>
    let blocked := connection.forwarder.handing.isSome
    let connection := Connection.readAll connection rehearsal.elapsed
    let rehearsal := { rehearsal with connections := rehearsal.connections.insert name connection }
    let rehearsal := if blocked then rehearsal.wake (forwardsTo name) else rehearsal
    rehearsal.park id (.dashboard name)

/-- The rehearsal without the tasks of a kind. -/
def dropTasks (rehearsal : Rehearsal) (drops : Task → Bool) : Rehearsal :=
  { rehearsal with
    waiting := rehearsal.waiting.filter fun task => !drops task
    ready := rehearsal.ready.filter fun task => !drops task }

/-- The rehearsal without a dashboard. -/
def disconnect (rehearsal : Rehearsal) (name : String) : Rehearsal :=
  { rehearsal with connections := rehearsal.connections.erase name }.dropTasks fun task =>
    readsFor name task.body || forwardsTo name task.body

/-- The rehearsal with one more dashboard. -/
def connect (rehearsal : Rehearsal) (name : String) (stalled : Bool) : Rehearsal :=
  let rehearsal := rehearsal.disconnect name
  let (relay, replay, position) := rehearsal.relay.joinDashboard
  let connection : Connection :=
    ⟨.ofSubscription replay position, !stalled, [], rehearsal.elapsed + keepAliveInterval⟩
  let rehearsal := rehearsal.withRelay relay
  let rehearsal :=
    { rehearsal with connections := rehearsal.connections.insert name connection }
  let rehearsal := rehearsal.addTask (.forwarder name)
  if stalled then rehearsal else rehearsal.addTask (.dashboard name)

/-- The rehearsal in which a stalled dashboard reads. -/
def unstall (rehearsal : Rehearsal) (name : String) : Rehearsal :=
  match rehearsal.connections.get? name with
  | none => rehearsal
  | some connection =>
    if connection.reading then rehearsal
    else
      let connection := { connection with reading := true }
      { rehearsal with connections := rehearsal.connections.insert name connection }.addTask
        (.dashboard name)

/-- What a dashboard has read since it was last asked. -/
def takeChunks (rehearsal : Rehearsal) (name : String) :
    Rehearsal × Option (List (Nat × List Char)) :=
  match rehearsal.connections.get? name with
  | none => (rehearsal, none)
  | some connection =>
    let emptied := { connection with chunks := [] }
    ({ rehearsal with connections := rehearsal.connections.insert name emptied },
      some connection.chunks.reverse)

end Rehearsal

end Scoreboard
