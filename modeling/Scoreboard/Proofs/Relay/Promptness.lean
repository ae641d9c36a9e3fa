import Scoreboard.Proofs.Schedule

/-! Prompt runs: time stands still while a task can have its turn. -/

namespace Scoreboard

/-- A task that gets what it waits for was under way. -/
theorem World.Step.ready_mem {backend : Backend} {world later : World} {turn : Turn}
    (step : world.Step backend turn later) {stage : Stage} (ready : turn.occasion = .ready stage) :
    stage ∈ world.tasks :=
  step.occasion_mem (ready ▸ List.mem_singleton_self stage)

/-- A task that a turn does not take stays where it is. -/
theorem World.Step.kept {backend : Backend} {world later : World} {turn : Turn}
    (step : world.Step backend turn later) {stage : Stage} (waits : stage ∈ world.tasks) :
    stage ∈ later.tasks ∨ stage ∈ turn.occasion.stages := by
  obtain ⟨left, right, earlier, now⟩ := step.tasks
  rw [earlier] at waits
  rw [now]
  simp only [List.mem_append] at waits ⊢
  -- The tasks on both sides of the one that is taken stay.
  rcases waits with (inLeft | taken) | inRight
  · exact .inl (.inl (.inl (.inl inLeft)))
  · exact .inr taken
  · exact .inl (.inl (.inr inRight))

/-- A task that goes on waits where its turn has left it. -/
theorem World.Step.next_mem {backend : Backend} {world later : World} {turn : Turn}
    (step : world.Step backend turn later) {stage : Stage} (next : turn.next = .wait stage) :
    stage ∈ later.tasks := by
  obtain ⟨left, right, _, now⟩ := step.tasks
  rw [now]
  simp [next, Next.stages]

/-- A task that a turn starts is in front of its first turn. -/
theorem World.Step.started_mem {backend : Backend} {world later : World} {turn : Turn}
    (step : world.Step backend turn later) {stage : Stage}
    (started : stage ∈ turn.after.startedStages) : stage ∈ later.tasks := by
  obtain ⟨left, right, _, now⟩ := step.tasks
  rw [now]
  exact List.mem_append_right _ started

/-- The clock of a run does not go back. -/
theorem Run.elapsed_le {backend : Backend} {start world : World} {past : List Turn}
    (run : Run backend start past world) {turn : Turn} (member : turn ∈ past) :
    turn.now.elapsed ≤ world.elapsed := by
  -- The induction is on the run, whose last turn is at the time of the world.
  induction run with
  | begin => cases member
  | @step past world later newest run step ih =>
    rw [step.elapsed]
    rcases List.mem_append.mp member with before | last
    · exact Nat.le_trans (ih before) step.clock
    · exact List.mem_singleton.mp last ▸ Nat.le_refl _

/-- No task can have its turn before a moment, so that time passes until then. -/
def World.WaitsUntil (world : World) (moment : Nat) : Prop :=
  ∀ earlier, world.elapsed ≤ earlier → earlier < moment →
    ∀ stage ∈ world.tasks, world.relay.meets earlier stage.wait = false

/-- What a task waits for does not go away as time passes. -/
theorem Relay.meets_mono {relay : Relay} {earlier moment : Nat} (passes : earlier ≤ moment)
    {wait : Wait} (met : relay.meets earlier wait = true) : relay.meets moment wait = true := by
  -- Only a deadline depends on the time.
  cases wait with
  | time deadline =>
    simp only [Relay.meets, decide_eq_true_eq] at met ⊢
    omega
  | _ => exact met

/-- Time passes until a moment when it has come, or when no task has its turn just before it. -/
def World.waitsUntil (world : World) (moment : Nat) : Bool :=
  moment ≤ world.elapsed ||
    world.tasks.all fun stage => !world.relay.meets (moment - 1) stage.wait

/-- What was checked just before a moment holds of all the time until then. -/
theorem World.waitsUntil_spec {world : World} {moment : Nat}
    (waits : world.waitsUntil moment = true) : world.WaitsUntil moment := by
  -- No time is left, or nothing is met at the last moment and so at no earlier one.
  intro earlier since before stage member
  simp only [World.waitsUntil, Bool.or_eq_true, decide_eq_true_eq, List.all_eq_true,
    Bool.not_eq_true'] at waits
  rcases waits with come | idle
  · omega
  · -- What is there at a moment would be there just before the end as well.
    rw [Bool.eq_false_iff]
    intro met
    have there := Relay.meets_mono (show earlier ≤ moment - 1 by omega) met
    rw [idle stage member] at there
    cases there

/-- A task that could have its turn at once lets no time pass. -/
theorem World.WaitsUntil.le_of_met {world : World} {moment : Nat} (waits : world.WaitsUntil moment)
    {stage : Stage} (member : stage ∈ world.tasks) {earlier : Nat}
    (since : world.elapsed ≤ earlier) (met : world.relay.meets earlier stage.wait = true) :
    moment ≤ earlier := by
  -- A later moment would be waited for although the task could go on.
  apply Nat.le_of_not_lt
  intro before
  have unmet := waits earlier since before stage member
  rw [met] at unmet
  cases unmet

/-- A run in which time passes only while no task can have its turn. -/
inductive PromptRun (backend : Backend) (start : World) : List Turn → World → Prop
  | begin : PromptRun backend start [] start
  | step {past : List Turn} {world later : World} {turn : Turn}
      (run : PromptRun backend start past world) (waits : world.WaitsUntil turn.now.elapsed)
      (step : world.Step backend turn later) : PromptRun backend start (past ++ [turn]) later

namespace PromptRun

variable {backend : Backend} {start world : World} {past : List Turn}

/-- A prompt run is a run. -/
theorem run (prompt : PromptRun backend start past world) : Run backend start past world := by
  induction prompt with
  | begin => exact .begin
  | step _ _ step ih => exact ih.step step

/-- The part of a prompt run up to one of its turns is a prompt run, and the turn is its next step. -/
theorem split {earlier later : List Turn} {turn : Turn}
    (prompt : PromptRun backend start past world) (parts : past = earlier ++ turn :: later) :
    ∃ between after, PromptRun backend start earlier between ∧
      between.WaitsUntil turn.now.elapsed ∧ between.Step backend turn after := by
  -- The last turn of the run is the one in question, or belongs to what comes later.
  induction prompt generalizing later with
  | begin => simp at parts
  | @step past between after last run waits step ih =>
    rcases last_or_before parts with ⟨rfl, rfl, rfl⟩ | ⟨front, _, parts⟩
    · exact ⟨between, after, run, waits, step⟩
    · exact ih parts

/--
What holds behind a turn, and is kept by every turn that comes later, holds at the end.

It may speak about the turns since then and about the world they have led to.
-/
theorem behind (prompt : PromptRun backend start past world) {earlier since : List Turn}
    {turn : Turn} (parts : past = earlier ++ turn :: since) (holds : List Turn → World → Prop)
    (first : ∀ before after, PromptRun backend start earlier before →
      before.Step backend turn after → holds [] after)
    (kept : ∀ front between final later, PromptRun backend start (earlier ++ turn :: front) between →
      between.WaitsUntil final.now.elapsed → between.Step backend final later →
      holds front between → holds (front ++ [final]) later) : holds since world := by
  -- The induction is on the run, which ends with the turn or goes on behind it.
  induction prompt generalizing since with
  | begin => simp at parts
  | @step past between later final run waits step ih =>
    rcases last_or_before parts with ⟨rfl, rfl, rfl⟩ | ⟨front, rfl, rfl⟩
    · exact first _ _ run step
    · exact kept front between final later run waits step (ih rfl)

end PromptRun

/-- Every choice of a schedule comes when time could pass until its moment. -/
def World.isPrompt (answers : Endpoint → Reply → Bool) (world : World) :
    List (Moment × Choice) → Bool
  | [] => true
  | (now, choice) :: choices =>
    match world.next? answers now choice with
    | none => false
    | some (_, later) => world.waitsUntil now.elapsed && later.isPrompt answers choices

/-- Choices that come when time could pass until then make a longer prompt run. -/
theorem PromptRun.replay {answers : Endpoint → Reply → Bool} {start world last : World}
    {past turns : List Turn} {choices : List (Moment × Choice)}
    (run : PromptRun (fun endpoint reply => answers endpoint reply = true) start past world)
    (timely : world.isPrompt answers choices = true)
    (replayed : world.replay answers past choices = some (turns, last)) :
    PromptRun (fun endpoint reply => answers endpoint reply = true) start turns last := by
  -- Each choice adds the turn it leads to.
  induction choices generalizing past world with
  | nil =>
    cases replayed
    exact run
  | cons first choices ih =>
    obtain ⟨now, choice⟩ := first
    simp only [World.replay, World.isPrompt] at replayed timely
    split at replayed
    · cases replayed
    · rename_i turn later next
      rw [next, Bool.and_eq_true] at timely
      have step := World.step_of_next? next
      -- The turn comes at the moment of the choice.
      have same : turn.now = now := by
        unfold World.next? at next
        split at next
        · cases next
        · obtain ⟨_, _, built⟩ := Option.map_eq_some_iff.mp next
          cases built
          rfl
      exact ih (run.step (same ▸ World.waitsUntil_spec timely.1) step) timely.2 replayed

end Scoreboard
