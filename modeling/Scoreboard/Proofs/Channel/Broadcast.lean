import Scoreboard.Channel.Broadcast

/-! Broadcast channels against everything that was ever sent on them. -/

namespace Scoreboard.Broadcast

variable {α : Type} {channel : Broadcast α} {capacity : Nat} {history : List α}

/-- A channel of a capacity on which a history was sent keeps the end of it. -/
structure Holds (channel : Broadcast α) (capacity : Nat) (history : List α) : Prop where
  room : channel.capacity = capacity
  kept : channel.kept = history.drop (history.length - capacity)
  sent : channel.sent = history.length

/-- A channel that nothing was sent on holds no message. -/
theorem holds_ofCapacity (capacity : Nat) :
    (ofCapacity capacity : Broadcast α).Holds capacity [] :=
  ⟨rfl, List.drop_nil.symm, rfl⟩

/-- A channel that holds a history holds it with one more message when that is sent. -/
theorem Holds.send (holds : channel.Holds capacity history) (message : α) :
    (channel.send message).Holds capacity (history ++ [message]) := by
  refine ⟨holds.room, ?_, by simp [Broadcast.send, holds.sent]⟩
  simp only [Broadcast.send, holds.kept, holds.room, List.length_append, List.length_drop,
    List.length_singleton]
  -- Dropping from what is kept already is dropping from the history.
  rw [← List.drop_append_of_le_length (by omega), List.drop_drop]
  congr 1
  omega

/-- The oldest message that is kept stands as far behind as the channel holds messages. -/
theorem Holds.oldest (holds : channel.Holds capacity history) :
    channel.oldest = history.length - capacity := by
  rw [Broadcast.oldest, holds.sent, holds.kept, List.length_drop]
  omega

/-- A receiver gets the message at its position, unless that is no longer or not yet there. -/
theorem Holds.receive (holds : channel.Holds capacity history) (position : Nat) :
    channel.receive position =
      if position + capacity < history.length then
        (.lagged (history.length - capacity - position), history.length - capacity)
      else match history[position]? with
        | some message => (.message message, position + 1)
        | none => (.empty, position) := by
  -- Whether a position is behind depends on how much of the history is still kept.
  unfold Broadcast.receive
  rw [holds.oldest]
  by_cases behind : position + capacity < history.length
  · rw [if_pos behind, if_pos (by omega)]
  · -- The position is in the part that is kept, or behind its end.
    have there : history.length - capacity ≤ position := by omega
    have found : channel.kept[position - (history.length - capacity)]? = history[position]? := by
      rw [holds.kept, List.getElem?_drop]
      congr 1
      omega
    rw [if_neg behind, if_neg (by omega)]
    cases here : history[position]? with
    | some message => simp only [found.trans here]
    | none => simp only [found.trans here]

end Scoreboard.Broadcast
