import Mathlib.Data.List.Induction
import Scoreboard.Proofs.Relay.Signals

/-! What the hub keeps for dashboards to come: the last event of each retained name. -/

namespace Scoreboard

namespace Hub

/-- The event of a name that a dashboard to come is told. -/
def latest? (hub : Hub) (name : String) : Option ServerEvent :=
  (hub.latest.find? fun entry => entry.1 = name).map Prod.snd

/-- An event takes the place of the one before it of its name, and of no other. -/
theorem latest?_broadcast (hub : Hub) (event : ServerEvent) {name : String}
    (retained : name ∈ retainedNames) :
    (hub.broadcast event).latest? name =
      if event.event = some name then some event else hub.latest? name := by
  -- Events without a name, of this name and of another one leave three different entries.
  simp only [latest?, broadcast, retain]
  cases called : event.event with
  | none => simp
  | some other =>
    by_cases same : other = name
    · subst same
      simp [retained]
    · -- The entry that goes is of the other name, so the search passes it over anyway.
      have passed : ∀ entry : String × ServerEvent,
          (entry.1 ≠ other ∧ entry.1 = name) ↔ entry.1 = name :=
        fun entry => and_iff_right_of_imp fun found => found.trans_ne (Ne.symm same)
      by_cases kept : other ∈ retainedNames
      · simp only [List.contains_iff_mem, kept, if_true, Option.some.injEq, same, if_false]
        rw [List.find?_cons_of_neg (by simpa using same), List.find?_filter]
        simp only [decide_eq_true_eq, passed]
      · simp [kept, same]

/-- What signals make of the hub: the last event of a retained name that they bring is kept. -/
theorem latest?_hear (signals : List Signal) (hub : Hub) {name : String}
    (retained : name ∈ retainedNames) :
    (signals.foldl hear hub).latest? name =
      (((signals.filterMap Signal.broadcast?).filter fun event =>
        event.event = some name).getLast?).or (hub.latest? name) := by
  -- The last signal decides, if it brings an event of the name.
  induction signals using List.reverseRecOn with
  | nil => rfl
  | append_singleton rest last ih =>
    rw [List.foldl_append, List.filterMap_append, List.filter_append]
    cases last with
    | broadcast event =>
      have kept : ([Signal.broadcast event].foldl hear (rest.foldl hear hub)).latest? name =
          if event.event = some name then some event
          else (rest.foldl hear hub).latest? name := latest?_broadcast _ event retained
      rw [kept, ih]
      by_cases named : event.event = some name <;> simp [named, Signal.broadcast?]
    | _ =>
      rw [List.filterMap_cons_none rfl, List.filterMap_nil, List.filter_nil, List.append_nil]
      exact ih

end Hub

/-- In every run, the hub keeps the last event of each retained name. -/
theorem Run.latest? {backend : Backend} {notificationInterval : Nat} {preferences : Preferences}
    {tasks : List NewTask} {past : List Turn} {world : World}
    (run : Run backend (.initial notificationInterval preferences tasks) past world)
    {name : String} (retained : name ∈ retainedNames) :
    world.relay.hub.latest? name = (broadcastsOf past name).getLast? := by
  rw [(run.heard rfl).1, Hub.latest?_hear _ _ retained, broadcastsOf_eq]
  -- The hub of a relay that has told nothing keeps nothing.
  exact Option.or_none

end Scoreboard
