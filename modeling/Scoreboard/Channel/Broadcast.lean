/-! Broadcast channels: every receiver gets every message, except those it is too slow for. -/

namespace Scoreboard

/-- A channel that keeps its newest messages for receivers to come and get them. -/
structure Broadcast (α : Type) where
  /-- How many messages are kept. -/
  capacity : Nat
  /-- The newest messages, oldest first. -/
  kept : List α
  /-- How many messages have ever been sent. -/
  sent : Nat
deriving Repr

/-- What a receiver finds. -/
inductive Received (α : Type)
  /-- Nothing new. -/
  | empty
  /-- The next message. -/
  | message (value : α)
  /-- So many messages were lost. -/
  | lagged (count : Nat)
deriving Repr

/-- The least power of two from a number on. -/
def powerOfTwoFrom (least : Nat) : Nat :=
  if least ≤ 1 then 1 else Nat.pow 2 ((least - 1).log2 + 1)

namespace Broadcast

variable {α : Type}

/-- A channel for at least so many messages, rounded up to a power of two; none for no message at all. -/
def ofCapacity? (least : Nat) : Option (Broadcast α) :=
  if least = 0 then none else some ⟨powerOfTwoFrom least, [], 0⟩

/-- A channel without messages. -/
def ofCapacity (capacity : Nat) : Broadcast α :=
  ⟨capacity, [], 0⟩

/-- The channel after one more message. -/
def send (channel : Broadcast α) (message : α) : Broadcast α :=
  let kept := channel.kept ++ [message]
  { channel with kept := kept.drop (kept.length - channel.capacity), sent := channel.sent + 1 }

/-- The position of a receiver that joins now and gets later messages only. -/
def subscribe (channel : Broadcast α) : Nat :=
  channel.sent

/-- The position of the oldest message that is kept. -/
def oldest (channel : Broadcast α) : Nat :=
  channel.sent - channel.kept.length

/-- What a receiver at a position finds, and its position afterwards. -/
def receive (channel : Broadcast α) (position : Nat) : Received α × Nat :=
  -- A receiver whose next message is gone is told how many are, and goes on with the oldest kept.
  if position < channel.oldest then (.lagged (channel.oldest - position), channel.oldest)
  else match channel.kept[position - channel.oldest]? with
    | some message => (.message message, position + 1)
    | none => (.empty, position)

/-- Everything a receiver at a position finds until nothing is left. -/
def drain (channel : Broadcast α) (position : Nat) : List (Received α) × Nat :=
  let later := (channel.kept.drop (position - channel.oldest)).map Received.message
  (if position < channel.oldest then .lagged (channel.oldest - position) :: later else later,
    channel.sent)

end Broadcast

end Scoreboard
