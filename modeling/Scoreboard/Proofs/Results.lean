/-! Results: when a computation that can fail succeeds. -/

namespace Scoreboard

section Results

variable {ε α β : Type} {result : Except ε α}

/-- A computation in two parts succeeds when both parts do. -/
theorem bind_eq_ok_iff {next : α → Except ε β} {value : β} :
    (result >>= next) = .ok value ↔ ∃ first, result = .ok first ∧ next first = .ok value := by
  cases result <;> simp [bind, Except.bind]

/-- A result that is changed succeeds when the result does. -/
theorem map_eq_ok_iff {change : α → β} {value : β} :
    result.map change = .ok value ↔ ∃ first, result = .ok first ∧ change first = value := by
  cases result <;> simp [Except.map]

/-- What is left of a result without its problem is its value. -/
theorem eq_ok_of_toOption {value : α} (found : result.toOption = some value) :
    result = .ok value := by
  cases result with
  | error problem => cases found
  | ok other => exact congrArg Except.ok (Option.some.inj found)

/-- A result that has a value is that value, whatever would stand in for it. -/
theorem eq_ok_getD (found : result.toOption.isSome = true) (other : α) :
    result = .ok (result.toOption.getD other) := by
  cases result with
  | error problem => cases found
  | ok value => rfl

end Results

end Scoreboard
