/-! Watched values: receivers see the newest value and whether it was written since they last looked. -/

namespace Scoreboard

/-- A value with the number of times it has been written. -/
structure Watch (α : Type) where
  value : α
  version : Nat
deriving DecidableEq, Repr

namespace Watch

variable {α : Type}

/-- A value that nobody has written since. -/
def ofValue (value : α) : Watch α :=
  ⟨value, 0⟩

/-- The value written anew, which counts as a change even when it is the same. -/
def write (watch : Watch α) (value : α) : Watch α :=
  ⟨value, watch.version + 1⟩

/-- Whether the value was written after a receiver saw a version. -/
def changedSince (watch : Watch α) (seen : Nat) : Bool :=
  seen ≠ watch.version

end Watch

end Scoreboard
