import Scoreboard.Proofs.Notifications.GameOver
import Scoreboard.Proofs.Notifications.Timers

/-! Lifetimes of banner and animation: each lasts its time, whatever older timers run out meanwhile. -/

namespace Scoreboard

/-- While a timer runs, it is outdated fewer times than there are generations. -/
def Spaced (past : List Turn) : Prop :=
  ∀ earlier turn later, past = earlier ++ turn :: later → ∀ timer ∈ turn.timers,
    later.countP (fun other => other.outdates timer &&
      other.now.elapsed ≤ turn.now.elapsed + timer.length) < UInt64.size

/-- A short run has too few turns to come back to a generation. -/
theorem Spaced.of_length_le {past : List Turn} (short : past.length ≤ UInt64.size) :
    Spaced past := by
  intro earlier turn later parts timer member
  have whole : past.length = earlier.length + (later.length + 1) := by rw [parts]; simp
  exact Nat.lt_of_le_of_lt List.countP_le_length (by omega)

/-- What is spaced is so up to any turn. -/
theorem Spaced.front {earlier since : List Turn} (spaced : Spaced (earlier ++ since)) :
    Spaced earlier := by
  -- There are no more turns of a kind in front than altogether.
  intro front turn later parts timer member
  have wide := spaced front turn (later ++ since) (by rw [parts]; simp) timer member
  rw [List.countP_append] at wide
  omega

/-- Two newest turns of a kind are the same turn. -/
theorem eq_of_newest (kind : Turn → Bool) {front other since rest : List Turn} {turn last : Turn}
    (parts : front ++ turn :: since = other ++ last :: rest) (first : kind turn = true)
    (second : kind last = true) (none : ∀ later ∈ since, kind later = false)
    (nothing : ∀ later ∈ rest, kind later = false) : turn = last := by
  -- The turns of the kind are the same list, and both are its last element.
  have kept := congrArg (List.filter kind) parts
  have empty : since.filter kind = [] := List.filter_eq_nil_iff.mpr (by simpa using none)
  have bare : rest.filter kind = [] := List.filter_eq_nil_iff.mpr (by simpa using nothing)
  rw [List.filter_append, List.filter_append, List.filter_cons_of_pos first,
    List.filter_cons_of_pos second, empty, bare] at kept
  exact List.singleton_inj.mp (List.append_inj' kept rfl).2

/-- A generation that is counted up too seldom to come round again is another one. -/
theorem count_eq_zero_of_add_eq {generation : UInt64} {count : Nat} (few : count < UInt64.size)
    (same : generation + UInt64.ofNat count = generation) : count = 0 := by
  have zero := congrArg UInt64.toNat (UInt64.add_eq_left.mp same)
  rw [UInt64.toNat_ofNat', Nat.mod_eq_of_lt few] at zero
  exact zero

namespace Overlay

variable {overlay : Overlay}

/-- Whatever is done to banner or animation, the banner stays of the newest generation. -/
theorem Current.flash (current : overlay.Current) (flash : Flash) :
    (overlay.flash flash).Current := by
  intro generation shown
  cases flash with
  | banner service team => exact (Option.some.inj shown).symm
  | animation => exact current generation shown
  | dismissal =>
    have gone : (overlay.flash .dismissal).banner = .idle := banner_flash _
    simp [shownGeneration, gone] at shown
  | timeout timer =>
    -- The banner is gone, or is the one that it was.
    have kept : (overlay.flash (.timeout timer)).bannerGeneration = overlay.bannerGeneration :=
      newest_ranOut timer (.bannerExpiry 0)
    have banner : (overlay.flash (.timeout timer)).banner = .idle ∨
        (overlay.flash (.timeout timer)).banner = overlay.banner := by
      rw [banner_flash]
      cases timer with
      | bannerExpiry own =>
        dsimp only
        split
        · exact .inl rfl
        · exact .inr rfl
      | pyroReveal own => exact .inr rfl
      | pyroEnd own => exact .inr rfl
    rw [kept]
    rcases banner with gone | same
    · simp [shownGeneration, gone] at shown
    · rw [shownGeneration, same] at shown
      exact current generation shown

end Overlay

section Runs

variable {backend : Backend} {notificationInterval : Nat} {preferences : Preferences}
  {tasks : List NewTask} {past earlier since : List Turn} {world : World} {turn : Turn}
  {timer : OverlayTimer} {moment : Nat}

/-- A banner that is shown is always of the newest generation. -/
theorem Run.current
    (run : Run backend (.initial notificationInterval preferences tasks) past world) :
    world.relay.overlay.Current := by
  -- The induction is on the run: a banner is shown with the number that was just given out.
  induction run with
  | begin =>
    intro generation shown
    cases shown
  | @step past world later turn run step ih =>
    rw [step.overlay]
    rw [← step.before] at ih
    rcases step.deed.flash_cases with ⟨_, winners, after⟩ | ⟨flash, _, after⟩
    · rw [after]
      exact ih
    · rw [after]
      exact ih.flash flash

/-- Since a timer was started, the generation was counted up by every turn that outdated it. -/
theorem PromptRun.newest_since
    (prompt : PromptRun backend (.initial notificationInterval preferences tasks) past world)
    (parts : past = earlier ++ turn :: since) (starts : timer ∈ turn.timers) :
    world.relay.overlay.newest timer = timer.generation +
      UInt64.ofNat (since.countP fun later => later.outdates timer) := by
  refine prompt.behind parts (fun since world => world.relay.overlay.newest timer =
    timer.generation + UInt64.ofNat (since.countP fun later => later.outdates timer)) ?_ ?_
  · intro before after _ step
    rw [step.overlay, (Turn.outdates_of_timers starts).2]
    simp
  · intro front between final later _ _ step counted
    rw [step.overlay, step.deed.newest, step.before, counted, List.countP_append]
    -- The last turn counts by one or not at all.
    cases outdates : final.outdates timer with
    | true => simp [outdates, UInt64.ofNat_add, UInt64.add_assoc]
    | false => simp [outdates]

/-- A timer that nothing has outdated is of the newest generation. -/
theorem PromptRun.newest_of_last
    (prompt : PromptRun backend (.initial notificationInterval preferences tasks) past world)
    (parts : past = earlier ++ turn :: since) (starts : timer ∈ turn.timers)
    (last : ∀ later ∈ since, later.outdates timer = false) :
    world.relay.overlay.newest timer = timer.generation := by
  -- No generation has been given out since.
  have none : (since.countP fun later => later.outdates timer) = 0 :=
    List.countP_eq_zero.mpr fun later inside => by simp [last later inside]
  rw [prompt.newest_since parts starts, none]
  simp

/-- A timer that runs is of the newest generation only if nothing has outdated it. -/
theorem PromptRun.not_outdates_of_newest
    (prompt : PromptRun backend (.initial notificationInterval preferences tasks) past world)
    (spaced : Spaced past) (parts : past = earlier ++ turn :: since)
    (starts : timer ∈ turn.timers) (runs : world.elapsed ≤ turn.now.elapsed + timer.length)
    (newest : world.relay.overlay.newest timer = timer.generation) :
    ∀ later ∈ since, later.outdates timer = false := by
  have counted := prompt.newest_since parts starts
  have few := spaced earlier turn since parts timer starts
  -- All turns since then were taken while the timer ran.
  have within : (since.countP fun later => later.outdates timer &&
      later.now.elapsed ≤ turn.now.elapsed + timer.length) =
      since.countP fun later => later.outdates timer := by
    refine List.countP_congr fun later member => ?_
    have inside : later ∈ past := by rw [parts]; simp [member]
    have early := prompt.run.elapsed_le inside
    simp only [Bool.and_eq_true, decide_eq_true_eq, and_iff_left_iff_imp]
    intro _
    omega
  rw [within] at few
  have none := count_eq_zero_of_add_eq few (counted.symm.trans newest)
  intro later member
  simpa using List.countP_eq_zero.mp none later member

/-- Every timer that runs out was started its length ago, and is outdated unless it is the newest. -/
theorem PromptRun.starter
    (prompt : PromptRun backend (.initial notificationInterval preferences tasks) past world)
    (untimed : Untimed tasks past) (spaced : Spaced past)
    (parts : past = earlier ++ turn :: since) (out : turn.flash? = some (.timeout timer)) :
    ∃ front starter between, earlier = front ++ starter :: between ∧ timer ∈ starter.timers ∧
      turn.now.elapsed = starter.now.elapsed + timer.length ∧
      (turn.before.overlay.newest timer = timer.generation →
        ∀ later ∈ between, later.outdates timer = false) := by
  obtain ⟨_, ⟨starter, member, starts, rfl⟩, now⟩ := prompt.started_before untimed parts out
  obtain ⟨front, between, split⟩ := List.append_of_mem member
  refine ⟨front, starter, between, split, starts, now, fun newest => ?_⟩
  -- The run up to the turn ends while the timer runs.
  obtain ⟨world, _, before, _, step⟩ := prompt.split parts
  have clock := step.clock
  rw [step.before] at newest
  exact before.not_outdates_of_newest (parts ▸ spaced).front split starts (by omega) newest

/-- A timer that waits at a moment was started no longer ago than its length. -/
theorem Stage.Timed.started {stage : Stage} (timed : stage.Timed past moment)
    (counts : stage.timer? = some timer) :
    ∃ started, StartedAt past timer started ∧ moment ≤ started + timer.length := by
  -- A timer waits from its start on, or from the reveal behind which it goes on.
  unfold Stage.timer? at counts
  split at counts
  · cases counts
    exact ⟨moment, timed, Nat.le_add_right _ _⟩
  · cases counts
    obtain ⟨started, at_start, deadline, before⟩ := timed
    exact ⟨started, at_start, by omega⟩
  · cases counts
    obtain ⟨_, started, at_start, now⟩ := timed
    exact ⟨started, at_start, by omega⟩
  · cases counts

/-- The newest timer of its kind has run out when its length has passed, and not before. -/
theorem PromptRun.ran_out_iff
    (prompt : PromptRun backend (.initial notificationInterval preferences tasks) past world)
    (untimed : Untimed tasks past) (spaced : Spaced past) (come : world.elapsed ≤ moment)
    (idle : world.WaitsUntil moment) (parts : past = earlier ++ turn :: since)
    (starts : timer ∈ turn.timers) (last : ∀ later ∈ since, later.outdates timer = false)
    (clear : turn.now.elapsed + timer.length ≠ moment) :
    (∃ out ∈ since, out.flash? = some (.timeout timer)) ↔
      turn.now.elapsed + timer.length < moment := by
  -- A timer whose length has passed has run out, since the world does not wait beyond it.
  constructor
  · -- A timer that has run out was started by the turn, for no other is the last one.
    rintro ⟨out, member, done⟩
    obtain ⟨front, back, rfl⟩ := List.append_of_mem member
    have whole : past = (earlier ++ turn :: front) ++ out :: back := by rw [parts]; simp
    obtain ⟨other, starter, between, split, starts', now, newest⟩ :=
      prompt.starter untimed spaced whole done
    obtain ⟨middle, _, before, _, step⟩ := prompt.split whole
    have unchanged : ∀ later ∈ front, later.outdates timer = false :=
      fun later inside => last later (List.mem_append_left _ inside)
    have current : out.before.overlay.newest timer = timer.generation := by
      rw [step.before, before.newest_of_last rfl starts unchanged]
    have same : turn = starter := eq_of_newest (fun later => later.outdates timer) split
      (Turn.outdates_of_timers starts).1 (Turn.outdates_of_timers starts').1 unchanged
      (newest current)
    have inside : out ∈ past := by rw [whole]; simp
    have early := prompt.run.elapsed_le inside
    rw [same] at clear ⊢
    omega
  · -- A timer that still waits was started by an earlier turn at the latest.
    intro past_due
    rcases prompt.ran_out_or_waits parts starts with out | ⟨stage, waits, counts⟩
    · exact out
    · have timed := (prompt.timed untimed stage waits).passes waits come idle
      obtain ⟨_, ⟨starter, member, starts', rfl⟩, until_then⟩ := timed.started counts
      have late : starter.now.elapsed ≤ turn.now.elapsed := by
        rw [parts, List.mem_append, List.mem_cons] at member
        rcases member with before | rfl | behind
        · obtain ⟨between, _, front, _, step⟩ := prompt.split parts
          exact Nat.le_trans (front.run.elapsed_le before) step.clock
        · exact Nat.le_refl _
        · have outdates := (Turn.outdates_of_timers starts').1
          rw [last starter behind] at outdates
          cases outdates
      omega

/-- As long as no banner is shown there is none. -/
theorem Run.banner_idle
    (run : Run backend (.initial notificationInterval preferences tasks) past world)
    (none : ∀ turn ∈ past, ∀ service team, turn.flash? ≠ some (.banner service team)) :
    world.relay.overlay.banner = .idle := by
  -- The induction is on the run, and no other flash brings a banner.
  induction run with
  | begin => rfl
  | @step past world later turn run step ih =>
    have before := ih fun other member => none other (List.mem_append_left _ member)
    rw [← step.before] at before
    rw [step.overlay]
    rcases step.deed.flash_cases with ⟨_, winners, after⟩ | ⟨flash, does, after⟩
    · rw [after]
      exact before
    · rw [after, Overlay.banner_flash]
      cases flash with
      | banner service team => exact absurd does (none turn (by simp) service team)
      | dismissal => rfl
      | animation => exact before
      | timeout timer =>
        cases timer with
        | bannerExpiry generation => simp [before]
        | pyroReveal generation => exact before
        | pyroEnd generation => exact before

/-- The turn is that in which a timer runs out. -/
def Turn.endsTimer (timer : OverlayTimer) (turn : Turn) : Bool :=
  turn.flash? = some (.timeout timer)

/-- The turn takes the banner of a generation down: it is dismissed, or its timer runs out. -/
def Turn.takesDown (generation : UInt64) (turn : Turn) : Bool :=
  turn.flash? = some .dismissal || turn.endsTimer (.bannerExpiry generation)

/-- A banner is taken down when it is dismissed, or when its timer runs out. -/
theorem any_takesDown (generation : UInt64) (since : List Turn) :
    since.any (Turn.takesDown generation) =
      ((since.any fun later => later.flash? = some .dismissal) ||
        since.any (Turn.endsTimer (.bannerExpiry generation))) := by
  -- The induction is on the turns, each of which may do the one or the other.
  induction since with
  | nil => rfl
  | cons first rest ih =>
    simp only [List.any_cons, ih, Turn.takesDown, Turn.endsTimer]
    ac_rfl

/-- Where no banner is shown, a turn leaves the banner of a generation, or takes it down. -/
theorem Turn.Deed.banner_after {turn : Turn} {service team : String} {generation : UInt64}
    (deed : turn.Deed) (none : ∀ service team, turn.flash? ≠ some (.banner service team))
    (held : turn.before.overlay.banner = .idle ∨
      turn.before.overlay.banner = .shown service team generation) :
    turn.after.overlay.banner =
      if turn.takesDown generation then .idle else turn.before.overlay.banner := by
  rcases deed.flash_cases with ⟨nothing, winners, after⟩ | ⟨flash, does, after⟩
  · rw [after]
    simp [Turn.takesDown, Turn.endsTimer, nothing, Overlay.setPodium]
  · rw [after, Overlay.banner_flash]
    cases flash with
    | banner service team => exact absurd does (none service team)
    | dismissal => simp [Turn.takesDown, does]
    | animation => simp [Turn.takesDown, Turn.endsTimer, does]
    | timeout timer =>
      cases timer with
      | pyroReveal other => simp [Turn.takesDown, Turn.endsTimer, does]
      | pyroEnd other => simp [Turn.takesDown, Turn.endsTimer, does]
      | bannerExpiry other =>
        -- Only the timer of the banner itself finds it.
        dsimp only
        rw [Overlay.shownGeneration]
        rcases held with idle | shown
        · simp [idle]
        · by_cases same : other = generation
          · simp [Turn.takesDown, Turn.endsTimer, does, shown, same]
          · simp [Turn.takesDown, Turn.endsTimer, does, shown, same, Ne.symm same]

/-- The banner that was shown last is there until it is taken down. -/
theorem PromptRun.banner_since {service team : String} {generation : UInt64}
    (prompt : PromptRun backend (.initial notificationInterval preferences tasks) past world)
    (parts : past = earlier ++ turn :: since)
    (shown : turn.flash? = some (.banner service team))
    (own : generation = turn.before.overlay.bannerGeneration + 1)
    (last : ∀ later ∈ since, ∀ service team, later.flash? ≠ some (.banner service team)) :
    world.relay.overlay.banner =
      if since.any (Turn.takesDown generation) then .idle else .shown service team generation := by
  -- The statement is carried behind the turn, and each later turn does what one turn can do.
  refine prompt.behind parts (fun since world =>
    (∀ later ∈ since, ∀ service team, later.flash? ≠ some (.banner service team)) →
      world.relay.overlay.banner = if since.any (Turn.takesDown generation) then .idle
        else .shown service team generation) ?_ ?_ last
  · intro before after _ step _
    have overlay : after.relay.overlay = turn.before.overlay.flash (.banner service team) := by
      rw [step.relay, ← Overlay.flash_relay, ← Turn.after_of_flash? shown]
      rfl
    rw [overlay, Overlay.banner_flash, own]
    rfl
  · intro front between final later _ _ step holds last
    have before := holds fun other member => last other (List.mem_append_left _ member)
    rw [← step.before] at before
    rw [step.overlay, List.any_append]
    have held : final.before.overlay.banner = .idle ∨
        final.before.overlay.banner = .shown service team generation := by
      rw [before]
      split
      · exact .inl rfl
      · exact .inr rfl
    rw [step.deed.banner_after (last final (by simp)) held, before]
    cases front.any (Turn.takesDown generation) <;> simp

/-- As long as no animation starts there is none. -/
theorem Run.pyro_hidden
    (run : Run backend (.initial notificationInterval preferences tasks) past world)
    (none : ∀ turn ∈ past, turn.flash? ≠ some .animation) :
    world.relay.overlay.pyro = .hidden := by
  -- The induction is on the run, and no other flash brings an animation.
  induction run with
  | begin => rfl
  | @step past world later turn run step ih =>
    have before := ih fun other member => none other (List.mem_append_left _ member)
    rw [← step.before] at before
    rw [step.overlay]
    rcases step.deed.flash_cases with ⟨_, winners, after⟩ | ⟨flash, does, after⟩
    · rw [after]
      exact before
    · rw [after, Overlay.pyro_flash]
      cases flash with
      | animation => exact absurd does (none turn (by simp))
      | banner service team => exact before
      | dismissal => exact before
      | timeout timer => cases timer <;> simp [before]

/-- Where no animation starts, the timers of the animation are not outdated. -/
theorem Turn.not_outdates_pyro {turn : Turn} (none : turn.flash? ≠ some .animation)
    (generation : UInt64) : turn.outdates (.pyroReveal generation) = false ∧
      turn.outdates (.pyroEnd generation) = false := by
  -- Only the start of an animation gives out a generation of its timers.
  unfold Turn.outdates
  cases does : turn.flash? with
  | none => exact ⟨rfl, rfl⟩
  | some flash =>
    cases flash with
    | animation => exact absurd does none
    | _ => exact ⟨rfl, rfl⟩

/-- Where no banner is shown, the timer of the banner is not outdated. -/
theorem Turn.not_outdates_banner {turn : Turn}
    (none : ∀ service team, turn.flash? ≠ some (.banner service team)) (generation : UInt64) :
    turn.outdates (.bannerExpiry generation) = false := by
  -- Only a banner gives out a generation of its timer.
  unfold Turn.outdates
  cases does : turn.flash? with
  | none => rfl
  | some flash =>
    cases flash with
    | banner service team => exact absurd does (none service team)
    | _ => rfl

/-- The timers of the newest animation end it, or reveal the effect at the backdrop. -/
theorem Turn.Deed.pyro_after {turn : Turn} {generation : UInt64} (deed : turn.Deed)
    (none : turn.flash? ≠ some .animation)
    (newest : turn.before.overlay.pyroGeneration = generation) :
    turn.after.overlay.pyro =
      if turn.endsTimer (.pyroEnd generation) then .hidden
      else if turn.endsTimer (.pyroReveal generation) ∧ turn.before.overlay.pyro = .backdrop then
        .effect
      else turn.before.overlay.pyro := by
  -- The cases are the flashes, and the two timers of the animation are told by their generation.
  rcases deed.flash_cases with ⟨nothing, winners, after⟩ | ⟨flash, does, after⟩
  · rw [after]
    simp [Turn.endsTimer, nothing, Overlay.setPodium]
  · rw [after, Overlay.pyro_flash]
    cases flash with
    | animation => exact absurd does none
    | banner service team => simp [Turn.endsTimer, does]
    | dismissal => simp [Turn.endsTimer, does]
    | timeout timer =>
      cases timer with
      | bannerExpiry other => simp [Turn.endsTimer, does]
      | pyroReveal other => simp [Turn.endsTimer, does, newest, eq_comm]
      | pyroEnd other => simp [Turn.endsTimer, does, newest, eq_comm]

/-- The animation that was started last is at the backdrop until a timer of its own runs out. -/
theorem PromptRun.pyro_since {generation : UInt64}
    (prompt : PromptRun backend (.initial notificationInterval preferences tasks) past world)
    (parts : past = earlier ++ turn :: since) (starts : turn.flash? = some .animation)
    (own : generation = turn.before.overlay.pyroGeneration + 1)
    (last : ∀ later ∈ since, later.flash? ≠ some .animation) :
    world.relay.overlay.pyro =
      if since.any (Turn.endsTimer (.pyroEnd generation)) then .hidden
      else if since.any (Turn.endsTimer (.pyroReveal generation)) then .effect
      else .backdrop := by
  have timed : .pyroEnd generation ∈ turn.timers := by simp [Turn.timers, starts, Overlay.timers, own]
  refine prompt.behind parts (fun since world =>
    (∀ later ∈ since, later.flash? ≠ some .animation) → world.relay.overlay.pyro =
      if since.any (Turn.endsTimer (.pyroEnd generation)) then .hidden
      else if since.any (Turn.endsTimer (.pyroReveal generation)) then .effect
      else .backdrop) ?_ ?_ last
  · intro before after _ step _
    have overlay : after.relay.overlay = turn.before.overlay.flash .animation := by
      rw [step.relay, ← Overlay.flash_relay, ← Turn.after_of_flash? starts]
      rfl
    rw [overlay, Overlay.pyro_flash]
    rfl
  · intro front between final later prompt _ step holds last
    have others := fun other member => last other (List.mem_append_left [final] member)
    have before := holds others
    -- The generation of the animation is still the newest one.
    have newest : between.relay.overlay.pyroGeneration = generation :=
      prompt.newest_of_last rfl timed fun other member =>
        (Turn.not_outdates_pyro (others other member) generation).2
    rw [← step.before] at before newest
    rw [step.overlay, List.any_append, List.any_append]
    rw [step.deed.pyro_after (last final (by simp)) newest, before]
    -- The fireworks come once, and not behind the end.
    cases front.any (Turn.endsTimer (.pyroEnd generation)) <;>
      cases front.any (Turn.endsTimer (.pyroReveal generation)) <;> simp

/-- While notifications are on, the banner of a first blood is shown in the moment it is handed on. -/
theorem PromptRun.shown_at_once {use : EventUse} {service team : String}
    (prompt : PromptRun backend (.initial notificationInterval preferences tasks) past world)
    (idle : world.WaitsUntil moment) (parts : past = earlier ++ turn :: since)
    (hands : turn.occasion.Hands use (.firstBlood service team))
    (on : ∀ later ∈ since, later.before.preferences.showNotifications = true)
    (passed : turn.now.elapsed < moment) :
    ∃ shown ∈ since, shown.flash? = some (.banner service team) ∧
      shown.now.elapsed = turn.now.elapsed := by
  -- Until then the task waits for a part of the state only, so no time passes.
  have shown_or_near := prompt.behind parts (fun since world =>
    (∀ later ∈ since, later.before.preferences.showNotifications = true) →
      (∃ shown ∈ since, shown.flash? = some (.banner service team) ∧
        shown.now.elapsed = turn.now.elapsed) ∨
      (world.elapsed = turn.now.elapsed ∧ ∃ step, .entering 1 step ∈ world.tasks ∧
        (step = .weighBanner use service team ∨ step = .showBanner use service team)))
    (fun before after _ step _ => ?_) fun front between final later _ waits step holds on => ?_
  · rcases shown_or_near on with shown | ⟨now, step, member, _⟩
    · exact shown
    · have late := idle.le_of_met member (Nat.le_refl _) rfl
      omega
  · have next : turn.next = .wait (.entering 1 (.weighBanner use service team)) := by
      generalize occasion_eq : turn.occasion = occasion at hands
      cases hands <;>
        simp [Turn.next, Turn.result, occasion_eq, Relay.receive, Relay.resume, Relay.handleEvent,
          Relay.enter]
    exact .inr ⟨step.elapsed, _, step.next_mem next, .inl rfl⟩
  · rcases holds fun other member => on other (List.mem_append_left _ member) with
      ⟨shown, member, banner, now⟩ | ⟨now, ahead, member, near⟩
    · exact .inl ⟨shown, List.mem_append_left _ member, banner, now⟩
    · have soon := waits.le_of_met member (Nat.le_refl _) rfl
      have clock := step.clock
      have same : final.now.elapsed = turn.now.elapsed := by omega
      rcases step.kept member with stays | taken
      · exact .inr ⟨step.elapsed.trans same, ahead, stays, near⟩
      · have takes : final.occasion.stages = [.entering 1 ahead] := by
          cases occasion : final.occasion <;> simp_all [Occasion.stages]
        have result := Turn.performs step.due takes
        have occasion := Turn.ready_of_takes step.due takes (by simp [Stage.wait])
        rcases near with rfl | rfl
        · -- The preferences allow the banner.
          have next : final.next = .wait (.entering 1 (.showBanner use service team)) := by
            have allowed := on final (by simp)
            simp [Turn.next, result, Relay.perform, Relay.weighBanner, allowed, Relay.enter]
          exact .inr ⟨step.elapsed.trans same, _, step.next_mem next, .inr rfl⟩
        · exact .inl ⟨final, by simp, by simp [Turn.flash?, occasion], same⟩

/-- Whether the newest timer of its kind has run out is a matter of time alone. -/
theorem PromptRun.any_endsTimer_iff
    (prompt : PromptRun backend (.initial notificationInterval preferences tasks) past world)
    (untimed : Untimed tasks past) (spaced : Spaced past) (come : world.elapsed ≤ moment)
    (idle : world.WaitsUntil moment)
    (clear : ∀ turn ∈ past, ∀ timer ∈ turn.timers, turn.now.elapsed + timer.length ≠ moment)
    (parts : past = earlier ++ turn :: since) (starts : timer ∈ turn.timers)
    (last : ∀ later ∈ since, later.outdates timer = false) :
    since.any (Turn.endsTimer timer) = true ↔ turn.now.elapsed + timer.length < moment := by
  have due := clear turn (by rw [parts]; simp) timer starts
  have past_due := prompt.ran_out_iff untimed spaced come idle parts starts last due
  simpa [Turn.endsTimer] using past_due

/-- The banner that was shown last is there for ten seconds, unless it is dismissed. -/
theorem PromptRun.banner_at
    (prompt : PromptRun backend (.initial notificationInterval preferences tasks) past world)
    (untimed : Untimed tasks past) (spaced : Spaced past) (come : world.elapsed ≤ moment)
    (idle : world.WaitsUntil moment)
    (clear : ∀ turn ∈ past, ∀ timer ∈ turn.timers, turn.now.elapsed + timer.length ≠ moment)
    (parts : past = earlier ++ turn :: since) {service team : String}
    (shown : turn.flash? = some (.banner service team))
    (last : ∀ later ∈ since, ∀ service team, later.flash? ≠ some (.banner service team)) :
    world.relay.overlay.banner =
      if moment < turn.now.elapsed + 10000 ∧ ∀ later ∈ since, later.flash? ≠ some .dismissal then
        .shown service team (turn.before.overlay.bannerGeneration + 1)
      else .idle := by
  -- At a clear moment the timer has run out, or it has not, and a dismissal is in the past or not.
  have starts : .bannerExpiry (turn.before.overlay.bannerGeneration + 1) ∈ turn.timers := by
    simp [Turn.timers, shown, Overlay.timers]
  have past_due := prompt.any_endsTimer_iff untimed spaced come idle clear parts starts
    fun later member => Turn.not_outdates_banner (last later member) _
  have due := clear turn (by rw [parts]; simp) _ starts
  simp only [OverlayTimer.length, bannerDisplay] at past_due due
  rw [prompt.banner_since parts shown rfl last, any_takesDown]
  by_cases dismissed : ∀ later ∈ since, later.flash? ≠ some .dismissal
  · -- Time alone decides.
    have up : (since.any fun later => later.flash? = some .dismissal) = false := by
      simpa using dismissed
    rw [up, Bool.false_or]
    simp only [past_due]
    by_cases early : moment < turn.now.elapsed + 10000
    · rw [if_neg (by omega), if_pos ⟨early, dismissed⟩]
    · rw [if_pos (by omega), if_neg fun both => early both.1]
  · -- A banner that was dismissed is gone at any moment.
    have down : (since.any fun later => later.flash? = some .dismissal) = true := by
      simpa using dismissed
    rw [down, Bool.true_or, if_pos rfl, if_neg fun both => dismissed both.2]

/-- The animation that was started last is at the stage that its time says. -/
theorem PromptRun.pyro_at
    (prompt : PromptRun backend (.initial notificationInterval preferences tasks) past world)
    (untimed : Untimed tasks past) (spaced : Spaced past) (come : world.elapsed ≤ moment)
    (idle : world.WaitsUntil moment)
    (clear : ∀ turn ∈ past, ∀ timer ∈ turn.timers, turn.now.elapsed + timer.length ≠ moment)
    (parts : past = earlier ++ turn :: since) (plays : turn.flash? = some .animation)
    (last : ∀ later ∈ since, later.flash? ≠ some .animation) :
    world.relay.overlay.pyro =
      if moment < turn.now.elapsed + 1000 then .backdrop
      else if moment < turn.now.elapsed + 30000 then .effect
      else .hidden := by
  have reveals : .pyroReveal (turn.before.overlay.pyroGeneration + 1) ∈ turn.timers := by
    simp [Turn.timers, plays, Overlay.timers]
  have ends : .pyroEnd (turn.before.overlay.pyroGeneration + 1) ∈ turn.timers := by
    simp [Turn.timers, plays, Overlay.timers]
  have revealed := prompt.any_endsTimer_iff untimed spaced come idle clear parts reveals
    fun later member => (Turn.not_outdates_pyro (last later member) _).1
  have ended := prompt.any_endsTimer_iff untimed spaced come idle clear parts ends
    fun later member => (Turn.not_outdates_pyro (last later member) _).2
  have member : turn ∈ past := by rw [parts]; simp
  have first := clear turn member _ reveals
  have second := clear turn member _ ends
  simp only [OverlayTimer.length, pyroRevealDelay, pyroDuration] at revealed ended first second
  rw [prompt.pyro_since parts plays rfl last]
  simp only [revealed, ended]
  -- The moment is before both timers, between them, or behind both.
  by_cases early : moment < turn.now.elapsed + 1000
  · rw [if_pos early, if_neg (by omega), if_neg (by omega)]
  · rw [if_neg early]
    by_cases short : moment < turn.now.elapsed + 30000
    · rw [if_pos short, if_neg (by omega), if_pos (by omega)]
    · rw [if_neg short, if_pos (by omega)]

/-- A timer that is no longer the newest of its kind changes nothing when it runs out, untold. -/
theorem PromptRun.outdated_timer
    (prompt : PromptRun backend (.initial notificationInterval preferences tasks) past world)
    (parts : past = earlier ++ turn :: since) (out : turn.flash? = some (.timeout timer))
    (outdated : turn.before.overlay.newest timer ≠ timer.generation) :
    turn.after = turn.before ∧ turn.broadcasts "overlay" = [] := by
  obtain ⟨middle, _, before, _, step⟩ := prompt.split parts
  have current : turn.before.overlay.Current := step.before ▸ before.run.current
  have quiet : turn.before.signals = [] := step.before ▸ before.run.quiet rfl
  -- The timer finds something younger, or nothing.
  have after : turn.after = turn.before := by
    rw [Turn.after_of_flash? out, Relay.flash, Relay.runOut_eq,
      Overlay.ranOut_of_outdated current outdated]
    rfl
  refine ⟨after, ?_⟩
  rw [Turn.broadcasts, after, quiet]
  rfl

/--
Banner and animation last their time, for any number of overlapping banners, animations and timers.

Between the moments at which timers are due, the banner is the one shown last if that was less than
ten seconds ago and it has not been dismissed, and there is none otherwise. The animation is at the
backdrop for a second after its last start, at the fireworks until thirty seconds are over, and
hidden otherwise. A timer runs out when its length has passed since it was started; if something
newer has come since, it changes nothing and the dashboards are not told. While notifications are on,
the banner of a first blood is shown in the moment in which it is handed on.
-/
theorem banner_and_animation_last_their_time
    (prompt : PromptRun backend (.initial notificationInterval preferences tasks) past world)
    (untimed : Untimed tasks past) (spaced : Spaced past) (come : world.elapsed ≤ moment)
    (idle : world.WaitsUntil moment)
    (clear : ∀ turn ∈ past, ∀ timer ∈ turn.timers, turn.now.elapsed + timer.length ≠ moment) :
    ((∀ turn ∈ past, ∀ service team, turn.flash? ≠ some (.banner service team)) →
        world.relay.overlay.banner = .idle) ∧
      (∀ earlier turn since service team, past = earlier ++ turn :: since →
        turn.flash? = some (.banner service team) →
        (∀ later ∈ since, ∀ service team, later.flash? ≠ some (.banner service team)) →
        world.relay.overlay.banner =
          if moment < turn.now.elapsed + 10000 ∧ ∀ later ∈ since, later.flash? ≠ some .dismissal then
            .shown service team (turn.before.overlay.bannerGeneration + 1)
          else .idle) ∧
      ((∀ turn ∈ past, turn.flash? ≠ some .animation) → world.relay.overlay.pyro = .hidden) ∧
      (∀ earlier turn since, past = earlier ++ turn :: since → turn.flash? = some .animation →
        (∀ later ∈ since, later.flash? ≠ some .animation) →
        world.relay.overlay.pyro =
          if moment < turn.now.elapsed + 1000 then .backdrop
          else if moment < turn.now.elapsed + 30000 then .effect
          else .hidden) ∧
      (∀ earlier turn since timer, past = earlier ++ turn :: since →
        turn.flash? = some (.timeout timer) →
        ∃ front starter between, earlier = front ++ starter :: between ∧ timer ∈ starter.timers ∧
          turn.now.elapsed = starter.now.elapsed + timer.length ∧
          ((∃ newer ∈ between, newer.outdates timer = true) →
            turn.after = turn.before ∧ turn.broadcasts "overlay" = [])) ∧
      ∀ earlier turn since use service team, past = earlier ++ turn :: since →
        turn.occasion.Hands use (.firstBlood service team) →
        (∀ later ∈ since, later.before.preferences.showNotifications = true) →
        turn.now.elapsed < moment →
        ∃ shown ∈ since, shown.flash? = some (.banner service team) ∧
          shown.now.elapsed = turn.now.elapsed := by
  refine ⟨prompt.run.banner_idle, ?_, prompt.run.pyro_hidden, ?_, ?_, ?_⟩
  · intro earlier turn since service team parts shown last
    exact prompt.banner_at untimed spaced come idle clear parts shown last
  · intro earlier turn since parts plays last
    exact prompt.pyro_at untimed spaced come idle clear parts plays last
  · intro earlier turn since timer parts out
    obtain ⟨front, starter, between, split, starts, now, newest⟩ :=
      prompt.starter untimed spaced parts out
    refine ⟨front, starter, between, split, starts, now, ?_⟩
    rintro ⟨newer, member, outdates⟩
    -- A timer of the newest generation would have been outdated by nothing.
    refine prompt.outdated_timer parts out fun same => ?_
    rw [newest same newer member] at outdates
    cases outdates
  · intro earlier turn since use service team parts hands on passed
    exact prompt.shown_at_once idle parts hands on passed

end Runs

/-- Turns none of which is started by hand start no timer by hand. -/
theorem Untimed.of_all {past : List Turn}
    (taken : (past.all fun turn => !turn.startsByHand) = true) : Untimed [] past where
  -- A call of the kind would be started by hand.
  planned _ planned := nomatch planned
  called turn member timer called := by
    have untimed := List.all_eq_true.mp taken turn member
    simp [Turn.startsByHand, called] at untimed

/-- An animation at the start, a banner two seconds later, and another four seconds after that. -/
def Sample.overlapping : List (Moment × Choice) :=
  playedEnd ++ madeAt 0 [.ready 0, .ready 1] ++ madeAt 1000 [.ready 0, .ready 0] ++
    madeAt 2000 (.call (.event (.firstBlood "web" "A")) :: List.replicate 3 (.ready 1)) ++
    madeAt 6000 (.call (.event (.firstBlood "web" "B")) :: List.replicate 3 (.ready 2)) ++
    madeAt 12000 [.ready 1, .ready 1]

/-- When the turns of a run come, and what they do to banner and animation. -/
def flashesOf (past : List Turn) : List (Nat × Option Flash) :=
  past.map fun turn => (turn.now.elapsed, turn.flash?)

/-- A flash in its place is that of the turn in this place. -/
theorem exists_of_flashesOf {past : List Turn} {place elapsed : Nat} {flash? : Option Flash}
    (there : (flashesOf past)[place]? = some (elapsed, flash?)) :
    ∃ turn, past[place]? = some turn ∧ turn.now.elapsed = elapsed ∧ turn.flash? = flash? := by
  rw [flashesOf, List.getElem?_map] at there
  obtain ⟨turn, here, facts⟩ := Option.map_eq_some_iff.mp there
  exact ⟨turn, here, congrArg Prod.fst facts, congrArg Prod.snd facts⟩

/-- The flash of a later turn is among the later flashes. -/
theorem flash_mem_drop {past : List Turn} {count : Nat} {turn : Turn}
    (member : turn ∈ past.drop count) : turn.flash? ∈ ((flashesOf past).drop count).map Prod.snd := by
  rw [flashesOf, ← List.map_drop, List.map_map]
  exact List.mem_map_of_mem (f := fun turn : Turn => turn.flash?) member

set_option maxRecDepth 100000 in
/-- The timer of the first banner runs out, and the second one is still there for its whole time. -/
theorem second_banner_outlives_first_timer :
    ∃ past world, PromptRun Sample.backend Sample.start past world ∧ world.WaitsUntil 15999 ∧
      (∃ out ∈ past, out.flash? = some (.timeout (.bannerExpiry 1))) ∧
      (∃ generation, world.relay.overlay.banner = .shown "web" "B" generation) ∧
      world.relay.overlay.pyro = .effect := by
  -- The run is replayed, and the two banners and the animation stand in known places of it.
  have timely : Sample.start.isPrompt Sample.answers Sample.overlapping = true := by
    decide +kernel
  have replayed : (Sample.start.replay Sample.answers [] Sample.overlapping).map (fun reached =>
      (flashesOf reached.1, (reached.1.all fun turn => !turn.startsByHand),
        (reached.1.all fun turn => turn.timers.all fun timer =>
          turn.now.elapsed + timer.length ≠ 15999),
        reached.2.waitsUntil 15999, reached.2.elapsed)) =
      some (List.replicate 11 (0, none) ++ [(0, some .animation), (0, none), (0, none),
        (1000, none), (1000, some (.timeout (.pyroReveal 1))), (2000, none), (2000, none),
        (2000, some (.banner "web" "A")), (2000, none), (6000, none), (6000, none),
        (6000, some (.banner "web" "B")), (6000, none), (12000, none),
        (12000, some (.timeout (.bannerExpiry 1)))], true, true, true, 12000) := by decide +kernel
  obtain ⟨⟨past, world⟩, led, facts⟩ := Option.map_eq_some_iff.mp replayed
  simp only [Prod.mk.injEq] at facts
  obtain ⟨flashes, untimed, clear, waits, elapsed⟩ := facts
  have prompt : PromptRun Sample.backend Sample.start past world := PromptRun.begin.replay timely led
  have idle := World.waitsUntil_spec waits
  have length := congrArg List.length flashes
  rw [flashesOf, List.length_map] at length
  obtain ⟨_, banner, _, pyro, _⟩ := banner_and_animation_last_their_time prompt (.of_all untimed)
    (.of_length_le (by rw [length]; decide)) (elapsed.trans_le (by decide)) idle
    (by simpa using clear)
  obtain ⟨out, out_here, _, runs_out⟩ : ∃ turn, past[25]? = some turn ∧ turn.now.elapsed = 12000 ∧
      turn.flash? = some (.timeout (.bannerExpiry 1)) :=
    exists_of_flashesOf (by rw [flashes]; rfl)
  obtain ⟨shown, shown_here, shown_at, shows⟩ : ∃ turn, past[22]? = some turn ∧
      turn.now.elapsed = 6000 ∧ turn.flash? = some (.banner "web" "B") :=
    exists_of_flashesOf (by rw [flashes]; rfl)
  obtain ⟨played, played_here, played_at, plays⟩ : ∃ turn, past[11]? = some turn ∧
      turn.now.elapsed = 0 ∧ turn.flash? = some .animation :=
    exists_of_flashesOf (by rw [flashes]; rfl)
  refine ⟨past, world, prompt, idle, ⟨out, List.mem_of_getElem? out_here, runs_out⟩,
    ⟨shown.before.overlay.bannerGeneration + 1, ?_⟩, ?_⟩
  · -- Neither banners nor dismissals come behind the second banner.
    have behind : ∀ later ∈ past.drop 23, later.flash? ∈
        [none, none, some (.timeout (.bannerExpiry 1))] := by
      intro later member
      have listed := flash_mem_drop member
      rwa [flashes] at listed
    have now := banner _ shown _ "web" "B" (split_at shown_here) shows
      fun later member service team same => by simpa [same] using behind later member
    rw [shown_at, if_pos ⟨by decide, fun later member same => by
      simpa [same] using behind later member⟩] at now
    exact now
  · have behind : ∀ later ∈ past.drop 12, later.flash? ≠ some .animation := by
      intro later member same
      have listed := flash_mem_drop member
      rw [flashes, same] at listed
      simp at listed
    have now := pyro _ played _ (split_at played_here) plays behind
    rw [played_at] at now
    exact now

end Scoreboard
