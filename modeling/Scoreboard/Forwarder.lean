import Scoreboard.Hub

/-! Forwarding the events of the hub to one dashboard, through a buffer that the dashboard empties. -/

namespace Scoreboard

/-- How many chunks are buffered for a dashboard. -/
def forwardBuffer : Nat := 8

/-- How long a dashboard gets nothing before it is told that the relay is still there, in milliseconds. -/
def keepAliveInterval : Nat := 15000

/-- The data lines of an event: every line of the data behind its mark. -/
def dataLines (data : List Char) : List Char :=
  -- Both line ends start another line and stay where they are.
  "data: ".toList ++ data.flatMap fun c =>
    if c = '\n' ∨ c = '\r' then c :: "data: ".toList else [c]

/-- An event as a chunk of the stream. -/
def ServerEvent.chunk (event : ServerEvent) : List Char :=
  (if event.data.isEmpty then [] else dataLines event.data.toList ++ ['\n'])
    ++ (match event.event with
      | none => []
      | some name => "event: ".toList ++ name.toList ++ ['\n'])
    ++ ['\n']

/-- The chunk that says no more than that the relay is still there. -/
def keepAliveChunk : List Char :=
  ": keep-alive\n\n".toList

/-- Where the forwarding to a dashboard stands. -/
structure Forwarder where
  /-- What the dashboard is told first and has not been buffered yet. -/
  replay : List ServerEvent
  /-- The next position in the hub's channel. -/
  position : Nat
  /-- The event that waits for room in the buffer. -/
  handing : Option ServerEvent
  /-- What the dashboard has yet to read, oldest first. -/
  buffer : List ServerEvent
deriving Repr

namespace Forwarder

/-- The forwarding to a dashboard that has just joined. -/
def ofSubscription (replay : List ServerEvent) (position : Nat) : Forwarder :=
  ⟨replay, position, none, []⟩

/-- Whether the buffer takes another event. -/
def hasRoom (forwarder : Forwarder) : Bool :=
  forwarder.buffer.length < forwardBuffer

/-- The forwarding with the next event in hand, none when there is none. -/
def pick? (forwarder : Forwarder) (channel : Broadcast ServerEvent) : Option Forwarder :=
  match forwarder.handing, forwarder.replay with
  | some _, _ => some forwarder
  | none, event :: replay => some { forwarder with handing := some event, replay := replay }
  | none, [] =>
    match channel.receive forwarder.position with
    | (.empty, _) => none
    | (.lagged _, position) => some { forwarder with position := position }
    | (.message event, position) =>
      some { forwarder with handing := some event, position := position }

/-- The forwarding with the event in hand put into the buffer. -/
def push (forwarder : Forwarder) : Forwarder :=
  match forwarder.handing with
  | none => forwarder
  | some event => { forwarder with handing := none, buffer := forwarder.buffer ++ [event] }

/-- The forwarding after at most so many steps, ending where it has to wait. -/
def advance (channel : Broadcast ServerEvent) : Nat → Forwarder → Forwarder
  | 0, forwarder => forwarder
  | turns + 1, forwarder =>
    match forwarder.pick? channel with
    | none => forwarder
    | some forwarder =>
      if forwarder.hasRoom then advance channel turns forwarder.push else forwarder

/-- The forwarding run until the channel is empty or the buffer full. -/
def run (forwarder : Forwarder) (channel : Broadcast ServerEvent) : Forwarder :=
  advance channel (forwarder.replay.length + channel.kept.length + 3) forwarder

/-- The next event for the dashboard, with the forwarding behind it. -/
def read? (forwarder : Forwarder) : Option (ServerEvent × Forwarder) :=
  match forwarder.buffer with
  | [] => none
  | event :: buffer => some (event, { forwarder with buffer := buffer })

end Forwarder

end Scoreboard
