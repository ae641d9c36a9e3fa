import Scoreboard.Channel.Broadcast

/-! The hub that sends events to all dashboards and repeats the latest ones to a dashboard that joins. -/

namespace Scoreboard

/-- An event for the dashboards: an optional name and its text. -/
structure ServerEvent where
  event : Option String
  data : String
deriving DecidableEq, Repr

/-- The names of the events whose latest one is kept for dashboards to come, in the order of their replay. -/
def retainedNames : List String :=
  ["scoreboard_tick", "overlay", "preferences", "game_over"]

/-- The channel to the dashboards with the latest event of each retained name. -/
structure Hub where
  channel : Broadcast ServerEvent
  /-- The latest event of each retained name that has had one. -/
  latest : List (String × ServerEvent)
deriving Repr

namespace Hub

/-- A hub for at least so many events, none when it could hold no event. -/
def ofCapacity? (least : Nat) : Option Hub :=
  (Broadcast.ofCapacity? least).map fun channel => ⟨channel, []⟩

/-- The hub of the relay, in which thirty-two events are kept. -/
def initial : Hub :=
  ⟨.ofCapacity 32, []⟩

/-- The latest events with one more in place of an older one of its name. -/
def retain (latest : List (String × ServerEvent)) (event : ServerEvent) :
    List (String × ServerEvent) :=
  match event.event with
  | none => latest
  | some name =>
    if retainedNames.contains name then
      (name, event) :: latest.filter fun entry => entry.1 ≠ name
    else latest

/-- The hub after one more event. -/
def broadcast (hub : Hub) (event : ServerEvent) : Hub :=
  ⟨hub.channel.send event, retain hub.latest event⟩

/-- What a dashboard that joins now is told first. -/
def replay (hub : Hub) : List ServerEvent :=
  retainedNames.filterMap fun name =>
    (hub.latest.find? fun entry => entry.1 = name).map Prod.snd

end Hub

end Scoreboard
