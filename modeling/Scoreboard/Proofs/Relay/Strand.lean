import Scoreboard.Proofs.Schedule

/-! Strands: the turns of one task, picked out of those of all tasks. -/

namespace Scoreboard

/-- Turns of one task, oldest first: each takes the task from where the one before has left it. -/
inductive Strand (first : Next) : List Turn → Next → Prop
  | begin : Strand first [] first
  | step {own : List Turn} {stage : Stage} {turn : Turn} (strand : Strand first own (.wait stage))
      (takes : turn.occasion.stages = [stage]) : Strand first (own ++ [turn]) turn.next

/-- A strand without turns is where it begins. -/
theorem Strand.eq_of_nil {first next : Next} {own : List Turn} (strand : Strand first own next)
    (none : own = []) : next = first := by
  cases strand with
  | begin => rfl
  | step strand takes => simp at none

/-- The first turn of a strand takes the task, and the rest goes on from where it has left it. -/
theorem Strand.uncons {first next : Next} {own rest : List Turn} {turn : Turn}
    (strand : Strand first own next) (parts : own = turn :: rest) :
    (∃ stage, first = .wait stage ∧ turn.occasion.stages = [stage]) ∧
      Strand turn.next rest next := by
  -- The induction takes turns from the end, and the last one to go is the first.
  induction strand generalizing rest with
  | begin => cases parts
  | @step own stage last strand takes ih =>
    cases own with
    | nil =>
      cases parts
      exact ⟨⟨stage, (strand.eq_of_nil rfl).symm, takes⟩, .begin⟩
    | cons head front =>
      cases parts
      obtain ⟨taken, behind⟩ := ih rfl
      exact ⟨taken, behind.step takes⟩

/-- A strand leads to where its last turn has left the task. -/
theorem Strand.next_of_last {first next : Next} {own : List Turn} {turn : Turn}
    (strand : Strand first (own ++ [turn]) next) : turn.next = next := by
  -- A strand with a last turn was made by a step.
  generalize whole : own ++ [turn] = turns at strand
  cases strand with
  | begin => simp at whole
  | step strand takes =>
    obtain ⟨_, same⟩ := List.append_inj' whole rfl
    rw [List.singleton_inj.mp same]

/-- Nobody takes up a task that has ended. -/
theorem Strand.of_done {outcome : Outcome} {next : Next} {own : List Turn}
    (strand : Strand (.done outcome) own next) : own = [] ∧ next = .done outcome := by
  -- A first turn would take up a stage, and there is none.
  cases own with
  | nil => exact ⟨rfl, strand.eq_of_nil rfl⟩
  | cons turn rest =>
    obtain ⟨⟨stage, waits, _⟩, _⟩ := strand.uncons rfl
    cases waits

namespace Turn

variable {backend : Backend} {turn : Turn}

/-- A stage that takes no reply is taken by getting what it waits for. -/
theorem ready_of_takes (due : turn.IsDue backend) {stage : Stage}
    (takes : turn.occasion.stages = [stage])
    (unanswered : ∀ endpoint, stage.wait ≠ .reply endpoint) : turn.occasion = .ready stage := by
  -- A call takes no stage up, and a reply comes to those that wait for one.
  cases occasion : turn.occasion with
  | call call => simp [occasion, Occasion.stages] at takes
  | ready other =>
    obtain rfl : other = stage := by simpa [occasion, Occasion.stages] using takes
    rfl
  | reply other reply =>
    obtain rfl : other = stage := by simpa [occasion, Occasion.stages] using takes
    simp only [Turn.IsDue, occasion] at due
    obtain ⟨endpoint, waits, _⟩ := due
    exact absurd waits (unanswered endpoint)

/-- A task that waits for a reply is taken by getting one. -/
theorem reply_of_takes {stage : Stage} {endpoint : Endpoint} (due : turn.IsDue backend)
    (takes : turn.occasion.stages = [stage]) (waits : stage.wait = .reply endpoint) :
    ∃ reply, turn.occasion = .reply stage reply := by
  cases occasion : turn.occasion with
  | call call => simp [occasion, Occasion.stages] at takes
  | ready other =>
    obtain rfl : other = stage := by simpa [occasion, Occasion.stages] using takes
    -- No part of the relay can tell that a reply is there.
    simp [Turn.IsDue, occasion, waits, Relay.meets] at due
  | reply other reply =>
    obtain rfl : other = stage := by simpa [occasion, Occasion.stages] using takes
    exact ⟨reply, rfl⟩

/-- A task in front of one part of the shared state does its step next. -/
theorem performs {step : Step} (due : turn.IsDue backend)
    (takes : turn.occasion.stages = [.entering 1 step]) :
    turn.result = turn.before.perform turn.now turn.jitter step := by
  have occasion := ready_of_takes due takes (by simp [Stage.wait])
  simp [Turn.result, occasion, Relay.resume]

end Turn

/-- A turn of a strand within a run has the strand so far within the run so far. -/
theorem Strand.sublist_split {own past : List Turn} {turn : Turn}
    (inside : (own ++ [turn]).Sublist past) :
    ∃ earlier later, past = earlier ++ turn :: later ∧ own.Sublist earlier := by
  -- What stands in front of the turn is cut at the place where the strand so far ends.
  obtain ⟨front, back, rfl, before, last⟩ := List.append_sublist_iff.mp inside
  obtain ⟨between, later, rfl⟩ := List.append_of_mem (List.singleton_sublist.mp last)
  exact ⟨front ++ between, later, by simp, before.trans (List.sublist_append_left _ _)⟩

/-- Where a task begins in a run, and the turns that follow on that. -/
inductive Begins (start : World) : List Turn → Next → List Turn → Prop
  | initial {past : List Turn} {stage : Stage} (member : stage ∈ start.tasks) :
    Begins start past (.wait stage) past
  | started {earlier since : List Turn} {turn : Turn} {stage : Stage}
      (member : stage ∈ turn.after.startedStages) :
    Begins start (earlier ++ turn :: since) (.wait stage) since
  | called {earlier since : List Turn} {turn : Turn} {call : Call}
      (occasion : turn.occasion = .call call) :
    Begins start (earlier ++ turn :: since) turn.next since

/-- A turn more comes behind the beginning of a task. -/
theorem Begins.more {start : World} {past since : List Turn} {first : Next}
    (begins : Begins start past first since) (turn : Turn) :
    Begins start (past ++ [turn]) first (since ++ [turn]) := by
  -- The beginning stays where it is in the run.
  cases begins with
  | initial member => exact .initial member
  | started member =>
    rw [List.append_assoc, List.cons_append]
    exact .started member
  | called occasion =>
    rw [List.append_assoc, List.cons_append]
    exact .called occasion

/-- The turns behind the beginning of a task are among those of the run. -/
theorem Begins.sublist {start : World} {past since : List Turn} {first : Next}
    (begins : Begins start past first since) : since.Sublist past := by
  -- The turns are all of the run, or those behind the turn that starts the task.
  cases begins with
  | initial member => exact .refl past
  | started member => exact (List.sublist_cons_self _ since).trans (List.sublist_append_right _ _)
  | called occasion => exact (List.sublist_cons_self _ since).trans (List.sublist_append_right _ _)

/-- Every task under way has come there by a strand, from where it began. -/
theorem Run.strand_of_mem {backend : Backend} {start world : World} {past : List Turn}
    (run : Run backend start past world) {stage : Stage} (waits : stage ∈ world.tasks) :
    ∃ first since own, Begins start past first since ∧ Strand first own (.wait stage) ∧
      own.Sublist since := by
  -- The stage is that of the latest turn, so the induction is on the run for every stage.
  induction run generalizing stage with
  | begin => exact ⟨.wait stage, [], [], .initial waits, .begin, .slnil⟩
  | @step past world later turn run step ih =>
    rcases step.tasks_cases waits with before | next | started
    · -- The task has not moved.
      obtain ⟨first, since, own, begins, strand, inside⟩ := ih before
      exact ⟨first, _, own, begins.more turn, strand,
        inside.trans (List.sublist_append_left since [turn])⟩
    · cases occasion : turn.occasion with
      | call call =>
        -- A call begins a task of its own.
        refine ⟨turn.next, [], [], .called occasion, ?_, .slnil⟩
        rw [next]
        exact .begin
      | ready other | reply other reply =>
        -- The turn is one more of the task that it takes.
        have takes : turn.occasion.stages = [other] := by rw [occasion]; rfl
        obtain ⟨first, since, own, begins, strand, inside⟩ :=
          ih (step.occasion_mem (takes ▸ List.mem_singleton_self other))
        exact ⟨first, _, own ++ [turn], begins.more turn, next ▸ strand.step takes,
          inside.append (List.Sublist.refl [turn])⟩
    · exact ⟨.wait stage, [], [], .started started, .begin, .slnil⟩

section Accounts

variable {counted : Stage → Bool} {gain : Turn → Bool}

/-- A strand gains no more than the stage that it begins with is worth. -/
theorem Strand.spends {first next : Next} {own : List Turn} (strand : Strand first own next)
    (turns : ∀ turn ∈ own, [turn].countP gain + turn.next.stages.countP counted ≤
      turn.occasion.stages.countP counted) :
    own.countP gain + next.stages.countP counted ≤ first.stages.countP counted := by
  induction strand with
  | begin => simp
  | @step own stage turn strand takes ih =>
    have before := ih fun other member => turns other (List.mem_append_left _ member)
    have last := turns turn (by simp)
    -- What the turn takes is what the turns before have left.
    have stood : (Next.wait stage).stages = turn.occasion.stages := takes.symm
    rw [stood] at before
    rw [List.countP_append]
    omega

/-- A run gains no more than its tasks are worth, and its turns cost. -/
theorem Run.accounts {backend : Backend} {start world : World} {past : List Turn}
    {cost : Turn → Bool} (run : Run backend start past world)
    (turns : ∀ turn ∈ past,
      [turn].countP gain + (turn.next.stages ++ turn.after.startedStages).countP counted ≤
        turn.occasion.stages.countP counted + [turn].countP cost) :
    past.countP gain + world.tasks.countP counted ≤
      start.tasks.countP counted + past.countP cost := by
  induction run with
  | begin => simp
  | @step past world later turn run step ih =>
    have before := ih fun other member => turns other (List.mem_append_left _ member)
    have last := turns turn (by simp)
    -- The other tasks count on both sides, before the turn and behind it.
    obtain ⟨left, right, earlier, now⟩ := step.tasks
    rw [earlier] at before
    rw [now]
    simp only [List.countP_append] at before last ⊢
    omega

/-- A run gains no more than its started tasks are worth, if no task is worth anything at first. -/
theorem Run.spends {backend : Backend} {start world : World} {past : List Turn}
    {cost : Turn → Bool} (run : Run backend start past world)
    (worthless : start.tasks.countP counted = 0)
    (turns : ∀ turn ∈ past, [turn].countP gain + turn.next.stages.countP counted ≤
      turn.occasion.stages.countP counted)
    (starts : ∀ turn ∈ past, turn.after.startedStages.countP counted ≤ [turn].countP cost) :
    past.countP gain + world.tasks.countP counted ≤ past.countP cost := by
  -- What is gained comes of the turns and of the tasks that they start.
  rw [← Nat.zero_add (past.countP cost), ← worthless]
  refine run.accounts fun turn member => ?_
  rw [List.countP_append, ← Nat.add_assoc]
  exact Nat.add_le_add (turns turn member) (starts turn member)

end Accounts

/-- A turn takes a task out of its wait, and is no call. -/
def Turn.ofTask (turn : Turn) : Bool :=
  !turn.occasion.stages.isEmpty

/-- A turn neither lets a call wait nor starts a task. -/
def Turn.keepsAlone (turn : Turn) : Bool :=
  (turn.next.stages.isEmpty || turn.ofTask) && turn.after.startedStages.isEmpty

/-- A task that is alone takes all turns that are no calls. -/
theorem Run.strand {backend : Backend} {start world : World} {past : List Turn} {first : Next}
    (run : Run backend start past world) (tasks : start.tasks = first.stages)
    (alone : past.all Turn.keepsAlone = true) :
    ∃ next, Strand first (past.filter Turn.ofTask) next ∧
      world.tasks = next.stages := by
  -- Nothing is ever added to the tasks, so what waits is what the strand has led to.
  induction run with
  | begin => exact ⟨first, .begin, tasks⟩
  | @step past world later turn run step ih =>
    simp only [List.all_append, List.all_cons, List.all_nil, Bool.and_true, Bool.and_eq_true,
      Turn.keepsAlone, Turn.ofTask, Bool.or_eq_true, List.isEmpty_iff] at alone
    obtain ⟨before, ends, none⟩ := alone
    obtain ⟨next, strand, waits⟩ := ih before
    obtain ⟨left, right, taken, now⟩ := step.tasks
    rw [waits] at taken
    rw [none, List.append_nil] at now
    rw [List.filter_append]
    cases occasion : turn.occasion.stages with
    | nil =>
      -- A call ends at once, so the task waits where it did.
      have ended : turn.next.stages = [] := by simpa [occasion] using ends
      refine ⟨next, by simpa [Turn.ofTask, occasion] using strand, ?_⟩
      rw [now, ended, taken, occasion]
    | cons stage others =>
      -- The only task waits at the stage that the turn takes it from.
      have single : next = .wait stage ∧ others = [] ∧ left = [] ∧ right = [] := by
        cases next with
        | wait other =>
          rw [Next.stages, occasion] at taken
          cases left <;> simp_all
        | done outcome => simp [Next.stages, occasion] at taken
      obtain ⟨rfl, rfl, rfl, rfl⟩ := single
      have behind := strand.step occasion
      exact ⟨turn.next, by simpa [Turn.ofTask, occasion] using behind, by simpa using now⟩

end Scoreboard
