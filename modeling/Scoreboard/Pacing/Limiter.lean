/-!
Keeping a least distance between the items of a stream.

Moments and durations are counted in milliseconds since a common start, without a bound. This assumes
two things of the clock: the sum of a moment and an interval is a moment that it can represent, and a
timer wakes at the very moment it was set to. A timer with a coarser grain lets an item out behind its
release time, by less than one grain.
-/

namespace Scoreboard

/-- The least milliseconds between two releases, and the moment from which the next is permitted. -/
structure Limiter where
  interval : Nat
  nextPermitted : Option Nat
deriving DecidableEq, Repr

namespace Limiter

/-- A limiter that has released nothing yet. -/
def ofInterval (interval : Nat) : Limiter :=
  ⟨interval, none⟩

/-- When an item that is there now may be released. -/
def release (limiter : Limiter) (now : Nat) : Nat :=
  max now (limiter.nextPermitted.getD now)

/-- The release time of an item that is there now, and the limiter behind it. -/
def schedule (limiter : Limiter) (now : Nat) : Nat × Limiter :=
  (limiter.release now, { limiter with nextPermitted := some (limiter.release now + limiter.interval) })

/-- The release times of items asked for one after another. -/
def scheduleAll (limiter : Limiter) : List Nat → List Nat
  | [] => []
  | now :: later => (limiter.schedule now).1 :: (limiter.schedule now).2.scheduleAll later

/-- An item of a stream that is asked for its items one after another. -/
structure Item (α : Type) where
  value : α
  /-- When the item is there, by when it is asked for. -/
  arrival : Nat → Nat
  /-- How long the consumer rests behind the item, before it asks for the next one. -/
  pause : Nat
  asked_le_arrival (asked : Nat) : asked ≤ arrival asked

/-- An item that is there from a moment on, whoever asks for it when. -/
def Item.thereAt {α : Type} (value : α) (moment pause : Nat) : Item α :=
  ⟨value, fun asked => max asked moment, pause, fun asked => Nat.le_max_left asked moment⟩

/-- How an item went through a limiter: when it was asked for, was there, and came out. -/
structure Passage (α : Type) where
  value : α
  asked : Nat
  arrived : Nat
  out : Nat
deriving DecidableEq, Repr

/-- The items of a stream, held back by a limiter, when the first one is asked for at a moment. -/
def limit {α : Type} (limiter : Limiter) (asked : Nat) : List (Item α) → List (Passage α)
  | [] => []
  | item :: items =>
    -- An item is pulled before it is held back, and the next one when the consumer asks again.
    let arrived := item.arrival asked
    let (out, limiter) := limiter.schedule arrived
    ⟨item.value, asked, arrived, out⟩ :: limiter.limit (out + item.pause) items

/-- Items that are there after given gaps, for a consumer that rests equally long behind each. -/
def itemsFrom (consumer moment : Nat) : List Nat → List (Item Unit)
  | [] => []
  | gap :: gaps =>
    Item.thereAt () (moment + gap) consumer :: itemsFrom consumer (moment + gap) gaps

/-- When the items of a stream come out, with gaps before them and a consumer's pause behind each. -/
def stream (interval consumer : Nat) (gaps : List Nat) : List Nat :=
  ((ofInterval interval).limit 0 (itemsFrom consumer 0 gaps)).map Passage.out

end Limiter

end Scoreboard
