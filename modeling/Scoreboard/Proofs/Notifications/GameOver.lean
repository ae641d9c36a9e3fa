import Scoreboard.Proofs.Notifications.Celebration

/-! Game over: it is told and shown of the published end of the game, and once for each end. -/

namespace Scoreboard

/-- The newest tick on the bus is the last one that was published. -/
theorem EventBus.newestTick_hear (signals : List Signal) : ∀ bus : EventBus,
    (signals.foldl EventBus.hear bus).newestTick.value =
      (signals.filterMap Signal.newestTick?).getLast?.getD bus.newestTick.value := by
  induction signals with
  | nil => exact fun _ => rfl
  | cons signal rest ih =>
    intro bus
    rw [List.foldl_cons, ih]
    cases signal with
    | newestTick tick =>
      -- The tick stays the newest one until another is published.
      have first : (Signal.newestTick tick :: rest).filterMap Signal.newestTick? =
          tick :: rest.filterMap Signal.newestTick? := rfl
      rw [first, List.getLast?_cons]
      rfl
    | _ => rfl

/-- Only a task with something ahead leaves a turn with something ahead. -/
theorem Strand.ahead?_ne_none {first next : Next} {own : List Turn}
    (progress : ∀ turn ∈ own, turn.Progress) (strand : Strand first own next)
    (ahead : next.ahead? ≠ none) : first.ahead? ≠ none := by
  -- Progress never adds anything, so what is ahead behind a turn was so in front of it.
  induction strand with
  | begin => exact ahead
  | @step own stage turn strand takes ih =>
    refine ih (fun other member => progress other (List.mem_append_left _ member)) ?_
    have taken : turn.occasion.ahead? = stage.ahead? := by
      cases occasion : turn.occasion with
      | call call => simp [occasion, Occasion.stages] at takes
      | ready other => simp_all [Occasion.stages, Occasion.ahead?]
      | reply other reply => simp_all [Occasion.stages, Occasion.ahead?]
    rw [Next.ahead?, ← taken]
    cases progress turn (by simp) with
    | on same unplayed =>
      rcases same with none | same
      · exact absurd none ahead
      · rwa [← same]
    | names tick winners named occasion next unplayed =>
      rw [occasion]
      exact Option.some_ne_none _
    | plays parts winners occasion next => exact absurd next ahead

section Runs

variable {backend : Backend} {notificationInterval : Nat} {preferences : Preferences}
  {tasks : List NewTask} {past : List Turn} {world : World}

/-- A tick from zero on that the newest one has reached was reached when that was published. -/
theorem Run.announced
    (run : Run backend (.initial notificationInterval preferences tasks) past world) {tick : Tick}
    (counted : 0 ≤ tick) (reached : tick ≤ world.relay.newestTick) :
    ∃ newest ∈ past.flatMap Turn.published, tick ≤ newest := by
  have told : past.flatMap Turn.published = (signalsOf past).filterMap Signal.newestTick? := by
    simp only [signalsOf, List.filterMap_flatMap]
    rfl
  rw [Relay.newestTick, (run.heard rfl).2, EventBus.newestTick_hear, ← told] at reached
  cases last : (past.flatMap Turn.published).getLast? with
  | some newest =>
    rw [last] at reached
    exact ⟨newest, List.mem_of_getLast? last, reached⟩
  | none =>
    -- Before anything is published, the newest tick is below zero.
    rw [last] at reached
    have unheard : ¬ 0 ≤ EventBus.initial.newestTick.value := by decide
    exact absurd (Int64.le_trans counted reached) unheard

/-- Nobody starts a celebration but the turns that hand on the end of a game. -/
structure Unprompted (tasks : List NewTask) (past : List Turn) : Prop where
  planned : ∀ tick, .gameOver tick ∉ tasks
  called : ∀ turn ∈ past, ∀ tick, turn.occasion ≠ .call (.start (.gameOver tick))

/-- Every turn of a run brings its task on by one step at most. -/
theorem Run.progress
    (run : Run backend (.initial notificationInterval preferences tasks) past world)
    (unprompted : Unprompted tasks past) {turn : Turn} (member : turn ∈ past) : turn.Progress :=
  (run.deed member).progress (unprompted.called turn member)

/-- A task that begins with something ahead was started by a turn that handed an end on. -/
theorem Run.ended_of_begins
    (run : Run backend (.initial notificationInterval preferences tasks) past world)
    (unprompted : Unprompted tasks past) {first : Next} {since : List Turn}
    (begins : Begins (.initial notificationInterval preferences tasks) past first since)
    (ahead : first.ahead? ≠ none) :
    ∃ tick, first = .wait (.starting (.gameOver tick)) ∧
      ∃ final ∈ past, final.ended? = some tick := by
  -- Neither the tasks at first nor calls have anything ahead.
  cases begins with
  | initial member =>
    obtain ⟨task, planned, rfl⟩ := List.mem_map.mp member
    cases task with
    | gameOver tick => exact absurd planned (unprompted.planned tick)
    | _ => exact absurd rfl ahead
  | @started earlier since turn stage member =>
    have inside : turn ∈ earlier ++ turn :: since := by simp
    rcases (run.deed inside).starts (run.quiet_of_mem rfl inside) with
      none | ⟨tick, ended, started⟩
    · exact absurd (none stage member) ahead
    · rw [started, List.mem_singleton] at member
      exact ⟨tick, congrArg Next.wait member, turn, inside, ended⟩
  | @called earlier since turn call occasion =>
    -- A call has nothing ahead, and its first turn brings nothing.
    have inside : turn ∈ earlier ++ turn :: since := by simp
    have nothing : turn.occasion.ahead? = none := by rw [occasion]; rfl
    cases run.progress unprompted inside with
    | on same unplayed =>
      rw [nothing, or_self] at same
      exact absurd same ahead
    | names tick winners named occasion next unplayed =>
      rw [nothing] at occasion
      cases occasion
    | plays parts winners occasion next => exact absurd next ahead

/-- A task with something ahead celebrates the end of a game that was handed on before. -/
theorem Run.celebration
    (run : Run backend (.initial notificationInterval preferences tasks) past world)
    (unprompted : Unprompted tasks past) {stage : Stage} (waits : stage ∈ world.tasks)
    (ahead : stage.ahead? ≠ none) :
    ∃ tick own, (∃ final ∈ past, final.ended? = some tick) ∧ own.Sublist past ∧
      Celebration tick own (.wait stage) := by
  obtain ⟨first, since, own, begins, strand, inside⟩ := run.strand_of_mem waits
  have sublist := inside.trans begins.sublist
  -- What is ahead at the end was ahead at the beginning, and tells who has started the task.
  have begun := strand.ahead?_ne_none
    (fun turn member => run.progress unprompted (sublist.subset member)) ahead
  have due : ∀ turn ∈ own, turn.IsDue backend :=
    fun turn member => run.due_of_mem (sublist.subset member)
  obtain ⟨tick, rfl, ended⟩ := run.ended_of_begins unprompted begins begun
  exact ⟨tick, own, ended, sublist, strand.celebration due⟩

/-- What counts of celebrations in a run is at most what its turns have handed on. -/
theorem Run.celebrated_le
    (run : Run backend (.initial notificationInterval preferences tasks) past world)
    (unprompted : Unprompted tasks past) (gain : Turn → Bool) (kind : Ahead → Bool)
    (turns : ∀ turn : Turn, turn.Progress → [turn].countP gain +
      turn.next.stages.countP (Stage.awaits kind) ≤
        turn.occasion.stages.countP (Stage.awaits kind)) :
    past.countP gain ≤ past.countP fun turn => turn.ended?.any fun tick => kind (.podium tick) := by
  have worthless : (World.initial notificationInterval preferences tasks).tasks.countP
      (Stage.awaits kind) = 0 := by
    rw [List.countP_eq_zero]
    intro stage member
    obtain ⟨task, planned, rfl⟩ := List.mem_map.mp member
    cases task with
    | gameOver tick => exact absurd planned (unprompted.planned tick)
    | _ => exact Bool.false_ne_true
  -- Only turns that hand an end on start tasks that are worth something.
  have spent := run.spends worthless
    (fun turn member => turns turn (run.progress unprompted member))
    fun turn member => (run.deed member).started_le (run.quiet_of_mem rfl member) kind
  omega

/-- A turn that hands an end on starts its celebration, and the dashboards see nothing. -/
theorem Turn.of_ended? {turn : Turn} {tick : Tick} (quiet : turn.before.signals = [])
    (ended : turn.ended? = some tick) :
    turn.Unseen ∧ turn.after.startedStages = [.starting (.gameOver tick)] := by
  -- The one turn that hands an end on starts a task and does nothing else.
  have after : turn.after = turn.before.start (.gameOver tick) := by
    unfold Turn.ended? at ended
    split at ended
    · rename_i other occasion
      cases ended
      simp only [Turn.after, Turn.result, occasion, Relay.receive, Relay.handleEvent,
        Relay.afterEvent_relay]
    · rename_i limiter position other deadline occasion
      cases ended
      simp only [Turn.after, Turn.result, occasion, Relay.resume, Relay.handleEvent,
        Relay.afterEvent_relay]
    · cases ended
  refine ⟨⟨by rw [after]; rfl, by rw [after]; rfl⟩, ?_⟩
  rw [after, Relay.startedStages, Relay.start, Relay.signal, quiet]
  rfl

end Runs

section Celebrations

variable {tick : Tick} {own : List Turn} {parts : Nat}

/-- A celebration in front of the podium has found the round of its tick. -/
theorem Celebration.found {other : Tick} {round : Round}
    (celebration : Celebration tick own (.wait (.entering parts (.nameWinners other round)))) :
    other = tick ∧ Asked tick own ∧
      ∃ turn ∈ own, ∃ snapshot, turn.check? = some (tick, snapshot) ∧ snapshot.round = round := by
  -- In the phases before, a celebration waits at other stages.
  cases celebration with
  | waits unseen waits => rcases waits with same | same <;> cases same
  | looks unseen asked looks => simp [Stage.LooksFor] at looks
  | @finds _ snapshot unseen asked found =>
    obtain ⟨turn, member, checked⟩ := found
    exact ⟨rfl, asked, turn, member, snapshot, checked, rfl⟩

/-- A celebration in front of the storing of a podium has just told that podium. -/
theorem Celebration.told {winners : List PodiumEntry}
    (celebration : Celebration tick own (.wait (.entering parts (.keepPodium winners)))) :
    ∃ front named, own = front ++ [named] ∧ named.named? = some (tick, winners) := by
  -- In the phases before, a celebration waits at other stages.
  cases celebration with
  | waits unseen waits => rcases waits with same | same <;> cases same
  | looks unseen asked looks => simp [Stage.LooksFor] at looks
  | tells finds named => exact ⟨_, _, rfl, named⟩

/-- A celebration that weighs the animation has told its podium and then stored it. -/
theorem Celebration.stored {winners : List PodiumEntry}
    (celebration : Celebration tick own (.wait (.entering parts (.weighPyro winners)))) :
    ∃ front named kept, own = front ++ [named, kept] ∧ named.named? = some (tick, winners) ∧
      kept.kept? = some winners := by
  cases celebration with
  | waits unseen waits => rcases waits with same | same <;> cases same
  | looks unseen asked looks => simp [Stage.LooksFor] at looks
  | keeps tells kept =>
    -- The turn before the one that stored the podium is the one that told it.
    obtain ⟨front, named, rfl, told⟩ := tells.told
    exact ⟨front, named, _, List.append_assoc _ _ _, told, kept⟩

/-- A celebration in front of the animation has stored the podium, and then found it allowed. -/
theorem Celebration.allowed {winners : List PodiumEntry}
    (celebration : Celebration tick own (.wait (.entering parts (.playPyro winners)))) :
    ∃ front named kept weighed, own = front ++ [named, kept, weighed] ∧
      named.named? = some (tick, winners) ∧ kept.kept? = some winners ∧
      weighed.before.preferences.showNotifications = true := by
  cases celebration with
  | waits unseen waits => rcases waits with same | same <;> cases same
  | looks unseen asked looks => simp [Stage.LooksFor] at looks
  | weighs keeps after on =>
    -- The turn before the one that found the animation allowed is the one that stored the podium.
    obtain ⟨front, named, kept, rfl, told, stored⟩ := keeps.stored
    exact ⟨front, named, kept, _, List.append_assoc _ _ _, told, stored, on⟩

end Celebrations

section Ends

variable {backend : Backend} {notificationInterval : Nat} {preferences : Preferences}
  {tasks : List NewTask} {past : List Turn} {world : World}

/-- A task with something ahead in front of a turn of a run celebrates an end from before. -/
theorem Run.celebration_before
    (run : Run backend (.initial notificationInterval preferences tasks) past world)
    (unprompted : Unprompted tasks past) {earlier later : List Turn} {turn : Turn} {stage : Stage}
    (parts : past = earlier ++ turn :: later) (occasion : turn.occasion = .ready stage)
    (ahead : stage.ahead? ≠ none) :
    ∃ between : World, Run backend (.initial notificationInterval preferences tasks) earlier between ∧
      turn.before = between.relay ∧
      ∃ tick own, (∃ final ∈ earlier, final.ended? = some tick) ∧ own.Sublist earlier ∧
        Celebration tick own (.wait stage) := by
  -- The task waited in front of the turn, so it is one of the tasks that celebrate.
  obtain ⟨between, _, before, step⟩ := run.split parts
  have sofar : Unprompted tasks earlier :=
    ⟨unprompted.planned, fun other member =>
      unprompted.called other (parts ▸ List.mem_append_left _ member)⟩
  have waits : stage ∈ between.tasks :=
    step.occasion_mem (by simp [occasion, Occasion.stages])
  exact ⟨between, before, step.before, before.celebration sofar waits ahead⟩

/-- A podium is told after its end was handed on, its tick published and its round found. -/
theorem Run.named_after_end
    (run : Run backend (.initial notificationInterval preferences tasks) past world)
    (unprompted : Unprompted tasks past) {earlier later : List Turn} {turn : Turn} {tick : Tick}
    {winners : List PodiumEntry} (parts : past = earlier ++ turn :: later)
    (named : turn.named? = some (tick, winners)) :
    (∃ final ∈ earlier, final.ended? = some tick) ∧
      (∃ newest ∈ earlier.flatMap Turn.published, tick ≤ newest) ∧
      (∃ asker ∈ earlier, tick ≤ asker.before.newestTick) ∧
      (∃ found ∈ earlier, ∃ snapshot, found.check? = some (tick, snapshot) ∧
        winners = podium snapshot.round turn.before.teams) ∧
      turn.after.hub.channel.Holds 32 (announcementsOf earlier ++ [.gameOver tick winners]) ∧
      turn.after.hub.latest? "game_over" = some (.gameOver tick winners) ∧
      turn.next = .wait (.entering 1 (.keepPodium winners)) := by
  obtain ⟨count, round, occasion, rfl, after, next⟩ := Turn.of_named?_eq_some named
  -- The task in front of the podium is a celebration, which has found the round.
  obtain ⟨between, before, same, other, own, ended, inside, celebration⟩ :=
    run.celebration_before unprompted parts occasion (Option.some_ne_none _)
  obtain ⟨rfl, ⟨counted, asking, asker, reached⟩, looked, member, snapshot, checked, rfl⟩ :=
    celebration.found
  refine ⟨ended, ?_, ⟨asking, inside.subset asker, reached⟩,
    ⟨looked, inside.subset member, snapshot, checked, rfl⟩, ?_, ?_, next⟩
  · -- The tick was reached when the celebration asked for its round, so it had been published.
    obtain ⟨front, back, first, _, rfl, prior, asks⟩ := before.step_of_mem (inside.subset asker)
    obtain ⟨newest, published, above⟩ := prior.announced counted (asks.before ▸ reached)
    refine ⟨newest, ?_, above⟩
    rw [List.flatMap_append]
    exact List.mem_append_left _ published
  · -- The hub holds what came before, and the podium behind it.
    rw [after, same]
    exact before.hub_holds.send _
  · rw [after]
    exact (Hub.latest?_broadcast _ _ (by decide)).trans (if_pos rfl)

/-- A podium is stored behind the turn that told it, and is the one in the overlay then. -/
theorem Run.kept_after_named
    (run : Run backend (.initial notificationInterval preferences tasks) past world)
    (unprompted : Unprompted tasks past) {earlier later : List Turn} {turn : Turn}
    {winners : List PodiumEntry} (parts : past = earlier ++ turn :: later)
    (kept : turn.kept? = some winners) :
    (∃ named ∈ earlier, ∃ tick, named.named? = some (tick, winners)) ∧
      turn.after = { turn.before with overlay := turn.before.overlay.setPodium winners } ∧
      turn.after.overlay.podium = winners := by
  obtain ⟨count, occasion, after, stored, _⟩ := Turn.of_kept?_eq_some kept
  -- The task in front of the storing is a celebration, whose last turn told the podium.
  obtain ⟨_, _, _, tick, own, _, inside, celebration⟩ :=
    run.celebration_before unprompted parts occasion (Option.some_ne_none _)
  obtain ⟨front, named, rfl, told⟩ := celebration.told
  exact ⟨⟨named, inside.subset (by simp), tick, told⟩, after, stored⟩

/-- An animation starts after its podium was told and stored, and notifications found to be on. -/
theorem Run.played_after_stored
    (run : Run backend (.initial notificationInterval preferences tasks) past world)
    (unprompted : Unprompted tasks past) {earlier later : List Turn} {turn : Turn}
    (parts : past = earlier ++ turn :: later) (plays : turn.playsPyro = true) :
    turn.after.overlay.pyro = .backdrop ∧
      ∃ named kept weighed tick winners, [named, kept, weighed].Sublist earlier ∧
        named.named? = some (tick, winners) ∧ kept.kept? = some winners ∧
        kept.after.overlay.podium = winners ∧
        weighed.before.preferences.showNotifications = true := by
  -- Only a celebration in front of the animation starts one.
  cases run.progress unprompted (parts ▸ by simp : turn ∈ past) with
  | on ahead unplayed => exact absurd (unplayed.symm.trans plays) Bool.false_ne_true
  | names tick winners named occasion next unplayed =>
    exact absurd (unplayed.symm.trans plays) Bool.false_ne_true
  | plays count winners occasion next =>
    obtain ⟨_, _, _, tick, own, _, inside, celebration⟩ :=
      run.celebration_before unprompted parts occasion (Option.some_ne_none _)
    obtain ⟨front, named, kept, weighed, rfl, told, stored, on⟩ := celebration.allowed
    obtain ⟨_, _, _, podium, _⟩ := Turn.of_kept?_eq_some stored
    refine ⟨?_, named, kept, weighed, tick, winners,
      (List.sublist_append_right front _).trans inside, told, stored, podium, on⟩
    -- A turn that still waits for a part of the shared state would have started nothing.
    by_cases last : 1 < count
    · have same : turn.after = turn.before := by
        simp only [Turn.after, Turn.result, occasion, Relay.resume, if_pos last]
      simp [Turn.playsPyro, same] at plays
    · have after : turn.after = turn.before.playPyro := by
        simp only [Turn.after, Turn.result, occasion, Relay.resume, if_neg last, Relay.perform]
      rw [after]
      rfl

/-- Every game-over event of a run is the podium that some turn tells. -/
theorem Run.broadcasts_gameOver
    (run : Run backend (.initial notificationInterval preferences tasks) past world) :
    broadcastsOf past "game_over" = (past.filterMap Turn.named?).map fun named =>
      ServerEvent.gameOver named.1 named.2 := by
  -- Each turn adds the podium that it tells, if it tells one.
  induction run with
  | begin => rfl
  | @step past world later turn run step ih =>
    have last := step.deed.broadcasts_gameOver (step.before ▸ run.quiet rfl)
    simp only [broadcastsOf, List.flatMap_append, List.filterMap_append, List.map_append] at ih ⊢
    rw [ih]
    cases named : turn.named? <;> simp [named, last]

/--
Game over comes only from the published end of a game, and once for each that was handed on.

Celebrations are started by nobody but the turns that hand the end of a game on. The game-over
events are the podiums that turns tell. A podium is told after the end of its tick was handed on,
after a newest tick from that on was published, and after the round of the tick was found, whose
best teams it names as the directory has them then. The hub holds the event behind all others and
keeps it for dashboards to come, and the turn goes on to store the same podium. A turn that stores a
podium leaves it in the overlay, behind the turn that told it. An animation starts after a podium was
told, that podium stored, and notifications found on behind that. There are at most as many podiums
of a tick, and as many animations, as ends were handed on, and every end that is handed on starts one
celebration, unseen. That tells one podium and starts one animation at most, and until it tells the
podium, or when it fails for good, the dashboards see nothing of it.
-/
theorem game_over_told_of_published_end
    (run : Run backend (.initial notificationInterval preferences tasks) past world)
    (unprompted : Unprompted tasks past) :
    (broadcastsOf past "game_over" = (past.filterMap Turn.named?).map fun named =>
      ServerEvent.gameOver named.1 named.2) ∧
    (∀ (earlier : List Turn) (turn : Turn) (later : List Turn) (tick : Tick)
      (winners : List PodiumEntry), past = earlier ++ turn :: later →
      turn.named? = some (tick, winners) →
        (∃ final ∈ earlier, final.ended? = some tick) ∧
        (∃ newest ∈ earlier.flatMap Turn.published, tick ≤ newest) ∧
        (∃ asker ∈ earlier, tick ≤ asker.before.newestTick) ∧
        (∃ found ∈ earlier, ∃ snapshot, found.check? = some (tick, snapshot) ∧
          winners = podium snapshot.round turn.before.teams) ∧
        turn.after.hub.channel.Holds 32 (announcementsOf earlier ++ [.gameOver tick winners]) ∧
        turn.after.hub.latest? "game_over" = some (.gameOver tick winners) ∧
        turn.next = .wait (.entering 1 (.keepPodium winners))) ∧
    (∀ (earlier : List Turn) (turn : Turn) (later : List Turn) (winners : List PodiumEntry),
      past = earlier ++ turn :: later → turn.kept? = some winners →
        (∃ named ∈ earlier, ∃ tick, named.named? = some (tick, winners)) ∧
        turn.after = { turn.before with overlay := turn.before.overlay.setPodium winners } ∧
        turn.after.overlay.podium = winners) ∧
    (∀ (earlier : List Turn) (turn : Turn) (later : List Turn),
      past = earlier ++ turn :: later → turn.playsPyro = true →
        turn.after.overlay.pyro = .backdrop ∧
        ∃ named kept weighed tick winners, [named, kept, weighed].Sublist earlier ∧
          named.named? = some (tick, winners) ∧ kept.kept? = some winners ∧
          kept.after.overlay.podium = winners ∧
          weighed.before.preferences.showNotifications = true) ∧
    (∀ tick, past.countP (Turn.names (· = tick)) ≤
      past.countP fun turn => turn.ended? = some tick) ∧
    (past.countP Turn.playsPyro ≤ past.countP fun turn => turn.ended?.isSome) ∧
    (∀ turn ∈ past, ∀ tick, turn.ended? = some tick →
      turn.Unseen ∧ turn.after.startedStages = [.starting (.gameOver tick)]) ∧
    ∀ (tick : Tick) (own : List Turn) (next : Next),
      Strand (.wait (.starting (.gameOver tick))) own next → own.Sublist past →
        Celebration tick own next ∧ own.countP (Turn.names fun _ => true) ≤ 1 ∧
          own.countP Turn.playsPyro ≤ 1 := by
  refine ⟨run.broadcasts_gameOver, fun _ _ _ _ _ => run.named_after_end unprompted,
    fun _ _ _ _ => run.kept_after_named unprompted, fun _ _ _ => run.played_after_stored unprompted,
    fun tick => ?_, ?_, fun turn member tick => ?_, fun tick own next strand inside => ?_⟩
  · -- Of the podiums ahead, only those of the tick count.
    have counts := run.celebrated_le unprompted (Turn.names (· = tick))
      (Ahead.isPodium (· = tick)) fun turn progress => progress.named_le _
    refine Nat.le_trans counts (List.countP_mono_left fun turn _ => ?_)
    cases turn.ended? <;> simp [Ahead.isPodium]
  · -- An animation is ahead of every celebration up to its last turn.
    have counts := run.celebrated_le unprompted Turn.playsPyro (fun _ => true)
      fun turn progress => progress.played_le
    refine Nat.le_trans counts (List.countP_mono_left fun turn _ => ?_)
    cases turn.ended? <;> simp
  · exact Turn.of_ended? (run.quiet_of_mem rfl member)
  · have due : ∀ turn ∈ own, turn.IsDue backend :=
      fun turn member => run.due_of_mem (inside.subset member)
    have progress : ∀ turn ∈ own, turn.Progress := fun turn member =>
      run.progress unprompted (inside.subset member)
    have named := strand.spends fun turn member => (progress turn member).named_le fun _ => true
    have played := strand.spends fun turn member => (progress turn member).played_le
    -- The stage that the celebration begins with is worth one podium and one animation at most.
    have worth : ∀ kind, (Next.wait (.starting (.gameOver tick))).stages.countP
        (Stage.awaits kind) ≤ 1 := fun kind => List.countP_le_length
    have podiums := worth (Ahead.isPodium fun _ => true)
    have animations := worth fun _ => true
    exact ⟨strand.celebration due, by omega, by omega⟩

end Ends

/-- A turn in which somebody outside starts a task. -/
def Turn.startsByHand (turn : Turn) : Bool :=
  match turn.occasion with
  | .call (.start _) => true
  | _ => false

/-- Turns none of which is started by hand prompt nothing. -/
theorem Unprompted.of_all {past : List Turn}
    (taken : (past.all fun turn => !turn.startsByHand) = true) : Unprompted [] past where
  -- A call of the kind would be started by hand.
  planned _ planned := nomatch planned
  called turn member tick called := by
    have unprompted := List.all_eq_true.mp taken turn member
    simp [Turn.startsByHand, called] at unprompted

set_option maxRecDepth 100000 in
/-- The end of the sample game is told and celebrated once, behind the storing of its podium. -/
theorem played_end_celebrated_once :
    ∃ past world, Run Sample.backend Sample.start past world ∧
      past.countP (Turn.names (· = 5)) = 1 ∧ past.countP Turn.playsPyro = 1 ∧
      (∃ final ∈ past, final.ended? = some 5) ∧
      ∃ named kept weighed tick winners, [named, kept, weighed].Sublist past ∧
        named.named? = some (tick, winners) ∧ kept.after.overlay.podium = winners ∧
        weighed.before.preferences.showNotifications = true := by
  -- The run is replayed, and its end stands among the turns.
  have replayed : (Sample.start.replay Sample.answers [] Sample.playedEnd).map (fun reached =>
      (reached.1.countP (Turn.names (· = 5)), reached.1.countP Turn.playsPyro,
        reached.1.all fun turn => !turn.startsByHand)) = some (1, 1, true) := by decide +kernel
  obtain ⟨past, world, run, facts⟩ := Run.of_replay replayed
  simp only [Prod.mk.injEq] at facts
  obtain ⟨told, played, taken⟩ := facts
  obtain ⟨_, _, _, stored, podiums, _⟩ := game_over_told_of_published_end run (.of_all taken)
  refine ⟨past, world, run, told, played, ?_, ?_⟩
  · -- As many ends were handed on as podiums were told at least.
    have some_end := podiums 5
    rw [told] at some_end
    obtain ⟨final, member, ended⟩ := List.countP_pos_iff.mp some_end
    exact ⟨final, member, of_decide_eq_true ended⟩
  · have some_play : 0 < past.countP Turn.playsPyro := by omega
    obtain ⟨turn, member, plays⟩ := List.countP_pos_iff.mp some_play
    obtain ⟨earlier, later, rfl⟩ := List.append_of_mem member
    obtain ⟨_, named, kept, weighed, tick, winners, order, tells, _, keeps, on⟩ :=
      stored earlier turn later rfl plays
    exact ⟨named, kept, weighed, tick, winners,
      order.trans (List.sublist_append_left earlier _), tells, keeps, on⟩

end Scoreboard
