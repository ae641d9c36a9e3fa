import Scoreboard.Relay.Turn

/-! Schedules: the tasks of the relay take their turns in any order, and a backend answers them. -/

namespace Scoreboard

/-- A backend, known by the replies it may give to each request. -/
abbrev Backend := Endpoint → Reply → Prop

/-- The relay and all tasks under way. -/
structure World where
  relay : Relay
  /-- Where the tasks wait; the order of the tasks means nothing. -/
  tasks : List Stage
  /-- How many milliseconds have passed at least. -/
  elapsed : Nat

/-- What a turn begins with. -/
inductive Occasion
  /-- Somebody outside asks for something. -/
  | call (call : Call)
  /-- A task gets what it waits for. -/
  | ready (stage : Stage)
  /-- A task gets the reply it waits for. -/
  | reply (stage : Stage) (reply : Reply)

/-- The task that an occasion takes out of its wait, none for a call. -/
def Occasion.stages : Occasion → List Stage
  | .call _ => []
  | .ready stage | .reply stage _ => [stage]

/--
One turn: what it begins with, when, and the relay in front of it.

A turn goes from the end of one wait to the start of the next, and no other task runs meanwhile.
-/
structure Turn where
  now : Moment
  jitter : Float
  occasion : Occasion
  before : Relay

/-- The stage at which a task waits after its turn, none when the task has ended. -/
def Next.stages : Next → List Stage
  | .wait stage => [stage]
  | .done _ => []

/-- The event that a signal tells of. -/
def Signal.event? : Signal → Option LiveEvent
  | .event told => some told
  | _ => none

/-- The task that a signal starts. -/
def Signal.task? : Signal → Option NewTask
  | .start started => some started
  | _ => none

/-- The tasks that the last turn started, each in front of its first turn. -/
def Relay.startedStages (relay : Relay) : List Stage :=
  (relay.signals.filterMap Signal.task?).map .starting

namespace Turn

/-- The relay after the turn, and how the turn ends. -/
def result (turn : Turn) : Relay × Next :=
  match turn.occasion with
  | .call call => turn.before.receive turn.now call
  | .ready stage => turn.before.resume turn.now turn.jitter stage
  | .reply stage reply => turn.before.resumeWithReply turn.now.elapsed reply stage

/-- The relay after the turn, with the signals of the turn. -/
def after (turn : Turn) : Relay :=
  turn.result.1

/-- How the turn ends. -/
def next (turn : Turn) : Next :=
  turn.result.2

/-- The events that the turn puts on the bus. -/
def events (turn : Turn) : List LiveEvent :=
  turn.after.signals.filterMap Signal.event?

/-- Whether the occasion of a turn is there: what is waited for, or a reply the backend may give. -/
def IsDue (backend : Backend) (turn : Turn) : Prop :=
  match turn.occasion with
  | .call _ => True
  | .ready stage => turn.before.meets turn.now.elapsed stage.wait = true
  | .reply stage reply => ∃ endpoint, stage.wait = .reply endpoint ∧ backend endpoint reply

end Turn

/-- A turn leads from one world to another. -/
structure World.Step (backend : Backend) (world : World) (turn : Turn) (later : World) : Prop where
  before : turn.before = world.relay
  due : turn.IsDue backend
  clock : world.elapsed ≤ turn.now.elapsed
  elapsed : later.elapsed = turn.now.elapsed
  relay : later.relay = turn.after.clearSignals
  /-- The task of the turn moves to its next stage, and the tasks it started join. -/
  tasks : ∃ left right, world.tasks = left ++ turn.occasion.stages ++ right ∧
    later.tasks = left ++ turn.next.stages ++ right ++ turn.after.startedStages

/-- The turns of a run, oldest first, lead from its first world to its last. -/
inductive Run (backend : Backend) (start : World) : List Turn → World → Prop
  | begin : Run backend start [] start
  | step {past : List Turn} {world later : World} {turn : Turn} (run : Run backend start past world)
      (step : world.Step backend turn later) : Run backend start (past ++ [turn]) later

/-- The world before anything is asked of the relay, with tasks in front of their first turns. -/
def World.initial (notificationInterval : Nat) (preferences : Preferences) (tasks : List NewTask) :
    World :=
  ⟨.initial notificationInterval preferences, tasks.map .starting, 0⟩

/-- The overlay of the later world is the one that the turn leaves. -/
theorem World.Step.overlay {backend : Backend} {world later : World} {turn : Turn}
    (step : world.Step backend turn later) : later.relay.overlay = turn.after.overlay := by
  rw [step.relay]
  rfl

/-- The task of a turn was under way. -/
theorem World.Step.occasion_mem {backend : Backend} {world later : World} {turn : Turn}
    (step : world.Step backend turn later) {stage : Stage}
    (taken : stage ∈ turn.occasion.stages) : stage ∈ world.tasks := by
  -- The tasks in front of the turn are split around the one that the occasion takes.
  obtain ⟨left, right, tasks, _⟩ := step.tasks
  rw [tasks]
  simp [taken]

/-- Every task under way after a turn was so before, or had that turn, or was started in it. -/
theorem World.Step.tasks_cases {backend : Backend} {world later : World} {turn : Turn}
    (step : world.Step backend turn later) {stage : Stage} (waits : stage ∈ later.tasks) :
    stage ∈ world.tasks ∨ turn.next = .wait stage ∨ stage ∈ turn.after.startedStages := by
  obtain ⟨left, right, earlier, now⟩ := step.tasks
  rw [now] at waits
  rw [earlier]
  simp only [List.mem_append] at waits ⊢
  -- The list after the turn has four parts, and the first and third were there before.
  rcases waits with ((inLeft | inNext) | inRight) | inStarted
  · exact .inl (.inl (.inl inLeft))
  · -- The second part is empty when the task has ended.
    refine .inr (.inl ?_)
    cases ends : turn.next with
    | wait other => simp_all [Next.stages]
    | done outcome => simp_all [Next.stages]
  · exact .inl (.inr inRight)
  · exact .inr (.inr inStarted)

/-- Every task under way after a turn was so before, or is the one of the turn, or is a new one. -/
theorem World.Step.tasks_mem {backend : Backend} {world later : World} {turn : Turn}
    (step : world.Step backend turn later) {stage : Stage} (waits : stage ∈ later.tasks) :
    stage ∈ world.tasks ∨ turn.next = .wait stage ∨ ∃ task, stage = .starting task := by
  -- What a turn starts stands at its beginning.
  rcases step.tasks_cases waits with before | next | started
  · exact .inl before
  · exact .inr (.inl next)
  · obtain ⟨task, _, rfl⟩ := List.mem_map.mp started
    exact .inr (.inr ⟨task, rfl⟩)

/-- No turn of a run finds signals of an earlier one. -/
theorem Run.quiet {backend : Backend} {start world : World} {past : List Turn}
    (quiet : start.relay.signals = []) (run : Run backend start past world) :
    world.relay.signals = [] := by
  -- The signals are cleared at the end of every turn.
  cases run with
  | begin => exact quiet
  | step _ step =>
    rw [step.relay]
    rfl

/-- A turn among some that end with another is this last one, or stands before it. -/
theorem last_or_before {past earlier later : List Turn} {last turn : Turn}
    (parts : past ++ [last] = earlier ++ turn :: later) :
    (later = [] ∧ past = earlier ∧ last = turn) ∨
      ∃ front, later = front ++ [last] ∧ past = earlier ++ turn :: front := by
  -- The two lists end with the same turn, whether something comes later or not.
  rcases List.eq_nil_or_concat later with rfl | ⟨front, final, rfl⟩
  · obtain ⟨same, ends⟩ := List.append_inj' parts rfl
    exact .inl ⟨rfl, same, List.singleton_inj.mp ends⟩
  · rw [List.concat_eq_append, ← List.cons_append, ← List.append_assoc] at parts
    obtain ⟨same, ends⟩ := List.append_inj' parts rfl
    rw [List.singleton_inj.mp ends, List.concat_eq_append]
    exact .inr ⟨front, rfl, same⟩

/-- The part of a run up to one of its turns is a run of its own, and the turn is its next step. -/
theorem Run.split {backend : Backend} {start world : World} {past earlier later : List Turn}
    {turn : Turn} (run : Run backend start past world) (parts : past = earlier ++ turn :: later) :
    ∃ between after, Run backend start earlier between ∧ between.Step backend turn after := by
  -- The last turn of the run is the one in question, or belongs to what comes later.
  induction run generalizing later with
  | begin => simp at parts
  | @step past between after last run step ih =>
    rcases last_or_before parts with ⟨rfl, rfl, rfl⟩ | ⟨front, _, parts⟩
    · exact ⟨between, after, run, step⟩
    · exact ih parts

/-- Every turn of a run is the next step of what came before it. -/
theorem Run.step_of_mem {backend : Backend} {start world : World} {past : List Turn} {turn : Turn}
    (run : Run backend start past world) (member : turn ∈ past) :
    ∃ earlier later between after, past = earlier ++ turn :: later ∧
      Run backend start earlier between ∧ between.Step backend turn after := by
  obtain ⟨earlier, later, parts⟩ := List.append_of_mem member
  obtain ⟨between, after, before, step⟩ := run.split parts
  exact ⟨earlier, later, between, after, parts, before, step⟩

/-- Every turn of a run was due. -/
theorem Run.due_of_mem {backend : Backend} {start world : World} {past : List Turn}
    (run : Run backend start past world) {turn : Turn} (member : turn ∈ past) :
    turn.IsDue backend := by
  obtain ⟨_, _, _, _, _, _, step⟩ := run.step_of_mem member
  exact step.due

/-- Turns picked out of those behind some turn of a run were due. -/
theorem Run.due_of_sublist {backend : Backend} {start world : World}
    {past earlier later own : List Turn} {turn : Turn} (run : Run backend start past world)
    (parts : past = earlier ++ turn :: later) (inside : own.Sublist later) :
    ∀ other ∈ own, other.IsDue backend := by
  -- They are turns of the run, all of which were.
  intro other member
  apply run.due_of_mem
  rw [parts]
  exact List.mem_append_right _ (List.mem_cons_of_mem _ (inside.subset member))

/-- A run is one with every backend that gives the replies which it has met. -/
theorem Run.of_due {backend other : Backend} {start world : World} {past : List Turn}
    (run : Run backend start past world) (due : ∀ turn ∈ past, turn.IsDue other) :
    Run other start past world := by
  -- The backend matters to a step only in what it lets a reply be.
  induction run with
  | begin => exact .begin
  | @step past world later turn run step ih =>
    have before := ih fun earlier member => due earlier (List.mem_append_left _ member)
    exact before.step { step with due := due turn (by simp) }

/-- Where no signals are left over at the start, none are in front of any turn. -/
theorem Run.quiet_of_mem {backend : Backend} {start world : World} {past : List Turn}
    (quiet : start.relay.signals = []) (run : Run backend start past world) {turn : Turn}
    (member : turn ∈ past) : turn.before.signals = [] := by
  obtain ⟨_, _, _, _, _, before, step⟩ := run.step_of_mem member
  exact step.before ▸ before.quiet quiet

/-- Without a turn the world is still the first one. -/
theorem Run.eq_of_nil {backend : Backend} {start world : World} {past : List Turn}
    (run : Run backend start past world) (none : past = []) : world = start := by
  cases run with
  | begin => rfl
  | step _ _ => simp at none

/-- A run without its last turn is a run, and that turn is its next step. -/
theorem Run.last {backend : Backend} {start world : World} {past : List Turn} {turn : Turn}
    (run : Run backend start (past ++ [turn]) world) :
    ∃ between, Run backend start past between ∧ between.Step backend turn world := by
  -- A run grows at its end, so the last turn is the one that it grew by.
  generalize whole : past ++ [turn] = turns at run
  cases run with
  | begin => simp at whole
  | @step earlier between _ newest run step =>
    obtain ⟨rfl, same⟩ := List.append_inj' whole rfl
    cases same
    exact ⟨between, run, step⟩

/-- A run without its first turn is a run from the world behind that turn. -/
theorem Run.uncons {backend : Backend} {start world : World} {past rest : List Turn} {turn : Turn}
    (run : Run backend start past world) (parts : past = turn :: rest) :
    ∃ between, start.Step backend turn between ∧ Run backend between rest world := by
  -- The induction takes turns from the end, and the last one to go is the first.
  induction run generalizing rest with
  | begin => cases parts
  | @step past between later newest run step ih =>
    cases past with
    | nil =>
      cases run.eq_of_nil rfl
      cases parts
      exact ⟨later, step, .begin⟩
    | cons earliest front =>
      cases parts
      obtain ⟨first, begun, behind⟩ := ih rfl
      exact ⟨first, begun, behind.step step⟩

/-- The first turn of a run finds the relay as it was at the start. -/
theorem Run.before_zero {backend : Backend} {start world : World} {past : List Turn}
    (run : Run backend start past world) {turn : Turn} (first : past[0]? = some turn) :
    turn.before = start.relay := by
  -- The first step of a run starts from the world that the run starts from.
  cases past with
  | nil => cases first
  | cons earliest rest =>
    cases first
    obtain ⟨_, begun, _⟩ := run.uncons rfl
    exact begun.before

/-- A place in a run splits it around the turn that is there. -/
theorem split_at {past : List Turn} {place : Nat} {turn : Turn} (here : past[place]? = some turn) :
    past = past.take place ++ turn :: past.drop (place + 1) := by
  obtain ⟨inside, rfl⟩ := List.getElem?_eq_some_iff.mp here
  simp

/-- A turn finds the relay as the turn in front of it has left it, without the signals. -/
theorem Run.before_succ {backend : Backend} {start world : World} {past : List Turn}
    (run : Run backend start past world) {place : Nat} {turn next : Turn}
    (here : past[place]? = some turn) (behind : past[place + 1]? = some next) :
    next.before = turn.after.clearSignals := by
  -- The run is cut behind both turns, one after the other.
  obtain ⟨between, _, before, step⟩ := run.split (split_at behind)
  obtain ⟨inside, rfl⟩ := List.getElem?_eq_some_iff.mp here
  rw [List.take_succ_eq_append_getElem inside] at before
  obtain ⟨_, _, earlier⟩ := before.last
  rw [step.before, earlier.relay]

/-- One choice of a schedule, with the places of the tasks in the list. -/
inductive Choice
  | call (call : Call)
  | ready (place : Nat)
  | reply (place : Nat) (reply : Reply)

/-- What a choice is the occasion of, with the tasks before and behind the one it takes. -/
def World.occasion? (world : World) (answers : Endpoint → Reply → Bool) (elapsed : Nat) :
    Choice → Option (List Stage × Occasion × List Stage)
  | .call call => some (world.tasks, .call call, [])
  | .ready place =>
    match world.tasks[place]? with
    | none => none
    | some stage =>
      if world.relay.meets elapsed stage.wait then
        some (world.tasks.take place, .ready stage, world.tasks.drop (place + 1))
      else none
  | .reply place reply =>
    match world.tasks[place]? with
    | none => none
    | some stage =>
      match stage.wait with
      | .reply endpoint =>
        if answers endpoint reply then
          some (world.tasks.take place, .reply stage reply, world.tasks.drop (place + 1))
        else none
      | _ => none

/-- The turn of a choice and the world after it, none when the choice is not open. -/
def World.next? (world : World) (answers : Endpoint → Reply → Bool) (now : Moment)
    (choice : Choice) : Option (Turn × World) :=
  if now.elapsed < world.elapsed then none
  else
    (world.occasion? answers now.elapsed choice).map fun (left, occasion, right) =>
      let turn : Turn := ⟨now, 0.0, occasion, world.relay⟩
      (turn, ⟨turn.after.clearSignals,
        left ++ turn.next.stages ++ right ++ turn.after.startedStages, now.elapsed⟩)

/-- The turns and the world to which choices lead, each made at its moment, after earlier turns. -/
def World.replay (answers : Endpoint → Reply → Bool) (past : List Turn) (world : World) :
    List (Moment × Choice) → Option (List Turn × World)
  | [] => some (past, world)
  | (now, choice) :: choices =>
    match world.next? answers now choice with
    | none => none
    | some (turn, later) => later.replay answers (past ++ [turn]) choices

/-- An open choice is the occasion of a due turn of a task under way. -/
theorem World.occasion?_spec {world : World} {answers : Endpoint → Reply → Bool} {elapsed : Nat}
    {choice : Choice} {left right : List Stage} {occasion : Occasion}
    (opened : world.occasion? answers elapsed choice = some (left, occasion, right)) :
    world.tasks = left ++ occasion.stages ++ right ∧ ∀ now : Moment, ∀ jitter,
      now.elapsed = elapsed →
        Turn.IsDue (fun endpoint reply => answers endpoint reply = true)
          ⟨now, jitter, occasion, world.relay⟩ := by
  -- Outside a call, the place of the choice splits the list around the task it takes.
  have around : ∀ {place : Nat} {stage : Stage}, world.tasks[place]? = some stage →
      world.tasks = world.tasks.take place ++ [stage] ++ world.tasks.drop (place + 1) := by
    intro place stage found
    obtain ⟨inside, rfl⟩ := List.getElem?_eq_some_iff.mp found
    simp
  cases choice with
  | call call =>
    cases opened
    exact ⟨by simp [Occasion.stages], fun _ _ _ => trivial⟩
  | ready place =>
    simp only [World.occasion?] at opened
    split at opened
    · cases opened
    · -- There is a task at the place, and what it waits for is there.
      rename_i stage found
      split at opened
      · rename_i met
        cases opened
        refine ⟨around found, fun now jitter same => ?_⟩
        simpa [Turn.IsDue, same] using met
      · cases opened
  | reply place reply =>
    simp only [World.occasion?] at opened
    split at opened
    · cases opened
    · -- There is a task at the place, it waits for a reply, and the backend may give this one.
      rename_i stage found
      split at opened
      · rename_i endpoint waits
        split at opened
        · rename_i answered
          cases opened
          exact ⟨around found, fun _ _ _ => ⟨endpoint, waits, answered⟩⟩
        · cases opened
      · cases opened

/-- The turn of a choice is a step of the world. -/
theorem World.step_of_next? {world later : World} {answers : Endpoint → Reply → Bool} {now : Moment}
    {choice : Choice} {turn : Turn} (next : world.next? answers now choice = some (turn, later)) :
    world.Step (fun endpoint reply => answers endpoint reply = true) turn later := by
  -- The turn exists only if both tests of the choice have passed.
  unfold World.next? at next
  split at next
  · cases next
  · -- The clock does not go back, and the choice is open.
    rename_i clock
    obtain ⟨⟨left, occasion, right⟩, opened, built⟩ := Option.map_eq_some_iff.mp next
    cases built
    obtain ⟨tasks, due⟩ := World.occasion?_spec opened
    exact ⟨rfl, due now 0.0 rfl, Nat.le_of_not_lt clock, rfl, rfl, left, right, tasks, rfl⟩

/-- Choices that can be replayed behind a run make a longer run. -/
theorem Run.replay {answers : Endpoint → Reply → Bool} {start world last : World}
    {past turns : List Turn} {choices : List (Moment × Choice)}
    (run : Run (fun endpoint reply => answers endpoint reply = true) start past world)
    (replayed : world.replay answers past choices = some (turns, last)) :
    Run (fun endpoint reply => answers endpoint reply = true) start turns last := by
  -- Each choice adds the turn it leads to.
  induction choices generalizing past world with
  | nil =>
    cases replayed
    exact run
  | cons first choices ih =>
    obtain ⟨now, choice⟩ := first
    simp only [World.replay] at replayed
    split at replayed
    · cases replayed
    · rename_i turn later next
      exact ih (run.step (World.step_of_next? next)) replayed

/-- What the replay of some choices comes to is what a run comes to. -/
theorem Run.of_replay {α : Type} {answers : Endpoint → Reply → Bool} {start : World}
    {choices : List (Moment × Choice)} {facts : List Turn × World → α} {value : α}
    (replayed : (start.replay answers [] choices).map facts = some value) :
    ∃ past world, Run (fun endpoint reply => answers endpoint reply = true) start past world ∧
      facts (past, world) = value := by
  obtain ⟨⟨past, world⟩, led, comes⟩ := Option.map_eq_some_iff.mp replayed
  exact ⟨past, world, Run.begin.replay led, comes⟩

end Scoreboard
