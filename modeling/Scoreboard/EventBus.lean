import Scoreboard.Channel.Broadcast
import Scoreboard.Channel.Watch
import Scoreboard.LiveEvent

/-! The bus on which the parts of the relay tell one another what happens. -/

namespace Scoreboard

/-- The newest scoreboard tick and the live events. -/
structure EventBus where
  newestTick : Watch Tick
  events : Broadcast LiveEvent

namespace EventBus

/-- A bus for at least so many events, none when it could hold no event. -/
def ofCapacity? (least : Nat) : Option EventBus :=
  (Broadcast.ofCapacity? least).map fun events => ⟨.ofValue (-1), events⟩

/-- The bus of the relay, on which sixty-four events are kept. -/
def initial : EventBus :=
  ⟨.ofValue (-1), .ofCapacity 64⟩

/-- The bus with a newer scoreboard tick. -/
def publish (bus : EventBus) (tick : Tick) : EventBus :=
  { bus with newestTick := bus.newestTick.write tick }

/-- The bus with one more event. -/
def emit (bus : EventBus) (event : LiveEvent) : EventBus :=
  { bus with events := bus.events.send event }

end EventBus

end Scoreboard
