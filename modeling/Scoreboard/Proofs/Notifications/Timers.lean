import Scoreboard.Proofs.Notifications.Ahead
import Scoreboard.Proofs.Relay.Promptness
import Scoreboard.Proofs.Relay.Strand
import Scoreboard.Proofs.Relay.Trades

/-! Timers of the overlay: what starts them, and that each runs out after exactly its length. -/

namespace Scoreboard

/-- What a turn can do to the banner and to the animation. -/
inductive Flash
  | banner (service team : String)
  | dismissal
  | animation
  | timeout (timer : OverlayTimer)
deriving DecidableEq

/-- The relay after something was done to the banner or to the animation. -/
def Relay.flash (relay : Relay) : Flash → Relay
  | .banner service team => relay.showBanner service team
  | .dismissal => relay.dismissBanner.1
  | .animation => relay.playPyro
  | .timeout timer => relay.runOut timer

/-- The timers that start with what is done to an overlay. -/
def Overlay.timers (overlay : Overlay) : Flash → List OverlayTimer
  | .banner .. => [.bannerExpiry (overlay.bannerGeneration + 1)]
  | .animation => [.pyroReveal (overlay.pyroGeneration + 1), .pyroEnd (overlay.pyroGeneration + 1)]
  | .dismissal | .timeout _ => []

/-- The timer that a task is. -/
def Stage.timer? : Stage → Option OverlayTimer
  | .starting (.timer timer) | .timing timer _ | .entering _ (.runOut timer) => some timer
  | _ => none

/-- The timer that a task is behind its turn. -/
def Next.timer? : Next → Option OverlayTimer
  | .wait stage => stage.timer?
  | .done _ => none

/-- A stage counts a timer down exactly when that timer is its trade. -/
theorem Stage.timer?_eq_some_iff {stage : Stage} {timer : OverlayTimer} :
    stage.timer? = some timer ↔ stage.trade? = some (.timer timer) := by
  -- Each kind of task has its own trade, and only timers have one that counts down.
  cases stage with
  | starting task => cases task <;> simp [timer?, trade?]
  | entering parts step => cases step <;> simp [timer?, trade?]
  | _ => simp [timer?, trade?]

namespace Turn

/-- What the turn does to the banner or to the animation, none when it does nothing to either. -/
def flash? (turn : Turn) : Option Flash :=
  match turn.occasion with
  | .ready (.entering parts step) =>
    if 1 < parts then none
    else match step with
      | .showBanner _ service team => some (.banner service team)
      | .dismissBanner _ => some .dismissal
      | .playPyro _ => some .animation
      | .runOut timer => some (.timeout timer)
      | _ => none
  | _ => none

/-- The timers that the turn starts. -/
def timers (turn : Turn) : List OverlayTimer :=
  (turn.flash?.map turn.before.overlay.timers).getD []

end Turn

namespace Relay

/-- Of the tasks, only the timers are started by what is done to banner or animation. -/
theorem tells_flash (relay : Relay) (flash : Flash) : ∃ told, relay.Tells (relay.flash flash) told ∧
    told.filterMap Signal.task? = (relay.overlay.timers flash).map .timer := by
  -- A banner and an animation start their own timers, and the other flashes start none.
  cases flash with
  | banner service team => exact ⟨_, relay.tells_showBanner service team, rfl⟩
  | animation => exact ⟨_, relay.tells_playPyro, rfl⟩
  | dismissal =>
    refine ⟨_, relay.tells_overlayChanged _, ?_⟩
    split <;> rfl
  | timeout timer =>
    refine ⟨_, relay.runOut_eq timer ▸ relay.tells_overlayChanged _, ?_⟩
    split <;> rfl

end Relay

namespace Turn

variable {backend : Backend} {turn : Turn} {timer : OverlayTimer}

/-- What a turn does to banner or animation is all that it does to the relay. -/
theorem after_of_flash? {flash : Flash} (does : turn.flash? = some flash) :
    turn.after = turn.before.flash flash := by
  unfold flash? at does
  split at does
  · rename_i parts step occasion
    split at does
    · cases does
    · rename_i last
      have result : turn.result = turn.before.perform turn.now turn.jitter step := by
        simp only [Turn.result, occasion, Relay.resume, if_neg last]
      have after : turn.after = (turn.before.perform turn.now turn.jitter step).1 :=
        congrArg Prod.fst result
      -- Four steps do something to banner or animation.
      cases step with
      | showBanner use service team =>
        cases does
        exact after.trans (Relay.afterEvent_relay _ _)
      | dismissBanner use =>
        cases does
        rw [after]
        cases use <;> rfl
      | playPyro winners =>
        cases does
        exact after
      | runOut timer =>
        cases does
        exact after
      | _ => cases does
  · cases does

/-- A turn that does nothing to banner or animation stores a podium at most. -/
theorem Deed.overlay_eq (deed : turn.Deed) (idle : turn.flash? = none) :
    ∃ winners, turn.after.overlay = turn.before.overlay.setPodium winners := by
  cases deed with
  | keeps parts winners occasion last after => exact ⟨winners, by rw [after]⟩
  -- Four deeds do something to banner or animation.
  | shows service team plain after parts use occasion last =>
    simp [flash?, occasion, last] at idle
  | dismisses plain after parts use occasion last => simp [flash?, occasion, last] at idle
  | runsOut timer plain after parts occasion last => simp [flash?, occasion, last] at idle
  | plays parts winners occasion last after => simp [flash?, occasion, last] at idle
  -- Some deeds have laws of their own for what they leave alone.
  | settles parts use tick snapshot occasion last after =>
    obtain ⟨rounds, histories, events, settled⟩ := turn.before.settleRound_eq tick snapshot.round
    exact ⟨turn.before.overlay.podium, by rw [after, settled]; rfl⟩
  | absorbs parts again response occasion plain after =>
    obtain ⟨bus, hub, signals, absorbed⟩ :=
      turn.before.absorbState_eq response turn.now.unix turn.jitter
    exact ⟨turn.before.overlay.podium, by rw [after, absorbed]; rfl⟩
  | misses plain after =>
    obtain ⟨hub, signals, missed⟩ := turn.before.missState_eq
    exact ⟨turn.before.overlay.podium, by rw [after, missed]; rfl⟩
  | _ => exact ⟨turn.before.overlay.podium, by rw [‹turn.after = _›]; rfl⟩

/-- A turn starts its timers, and no others. -/
theorem Deed.mem_timers (deed : turn.Deed) (quiet : turn.before.signals = []) :
    Stage.starting (.timer timer) ∈ turn.after.startedStages ↔ timer ∈ turn.timers := by
  -- What starts is known where it is known what is told.
  have of_tells : ∀ {told : List Signal}, turn.before.Tells turn.after told →
      (Stage.starting (.timer timer) ∈ turn.after.startedStages ↔
        .timer timer ∈ told.filterMap Signal.task?) := by
    intro told tells
    rw [startedStages_of_tells tells quiet]
    simp
  cases does : turn.flash? with
  | some flash =>
    obtain ⟨told, tells, started⟩ := turn.before.tells_flash flash
    rw [← after_of_flash? does] at tells
    rw [of_tells tells, started, timers, does]
    simp
  | none =>
    have timeless : turn.timers = [] := by rw [timers, does]; rfl
    simp only [timeless, List.not_mem_nil, iff_false]
    cases deed with
    | shows service team plain after parts use occasion last =>
      simp [flash?, occasion, last] at does
    | dismisses plain after parts use occasion last => simp [flash?, occasion, last] at does
    | runsOut timer plain after parts occasion last => simp [flash?, occasion, last] at does
    | plays parts winners occasion last after => simp [flash?, occasion, last] at does
    | final use tick hands plain after =>
      rw [of_tells (after ▸ Relay.tells_start _)]
      simp [Signal.task?]
    | settles parts use tick snapshot occasion last after =>
      obtain ⟨_, _, started⟩ := turn.before.settleRound_follow quiet tick snapshot.round
      simp [after, started]
    | absorbs parts again response occasion plain after =>
      obtain ⟨_, started⟩ :=
        turn.before.absorbState_follow quiet response turn.now.unix turn.jitter
      simp [after, started]
    | misses plain after =>
      obtain ⟨_, _, _, started⟩ := turn.before.missState_follow quiet
      simp [after, started]
    -- All other turns tell of no task, if they tell of anything.
    | _ =>
      intro member
      rw [Relay.startedStages, ‹turn.after = _›] at member
      simp [quiet, Relay.signal, Relay.broadcast, Relay.emit, Relay.storeRound,
        Relay.joinDashboard, Relay.updatePreferences, Signal.task?] at member

/-- What a turn does that takes a timer: it starts to run, gets in front of the overlay, or runs out. -/
inductive Ticks (turn : Turn) (timer : OverlayTimer) : Prop
  | starts (takes : turn.occasion = .ready (.starting (.timer timer)))
      (next : turn.next = .wait (.timing timer (turn.now.elapsed + timer.length)))
  | rings (deadline : Nat) (takes : turn.occasion = .ready (.timing timer deadline))
      (come : deadline ≤ turn.now.elapsed)
      (next : turn.next = .wait (.entering 1 (.runOut timer)))
  | queues (parts : Nat) (takes : turn.occasion = .ready (.entering parts (.runOut timer)))
      (several : 1 < parts) (next : turn.next = .wait (.entering (parts - 1) (.runOut timer)))
  | runsOut (parts : Nat) (takes : turn.occasion = .ready (.entering parts (.runOut timer)))
      (flash : turn.flash? = some (.timeout timer)) (next : turn.next = .done .nothing)

/-- A turn that takes a timer starts its sleep, wakes it or lets it run out. -/
theorem ticks (due : turn.IsDue backend) {stage : Stage} (takes : turn.occasion.stages = [stage])
    (counts : stage.timer? = some timer) : turn.Ticks timer := by
  unfold Stage.timer? at counts
  -- A timer waits for its turn, for its moment, and then for the overlay.
  split at counts
  · cases counts
    have occasion := ready_of_takes due takes (by simp [Stage.wait])
    exact .starts occasion (by simp [Turn.next, Turn.result, occasion, Relay.resume, Relay.begin])
  · rename_i deadline
    cases counts
    have occasion := ready_of_takes due takes (by simp [Stage.wait])
    refine .rings deadline occasion ?_
      (by simp [Turn.next, Turn.result, occasion, Relay.resume, Relay.enter])
    simpa [Turn.IsDue, occasion, Stage.wait, Relay.meets] using due
  · rename_i parts _
    cases counts
    have occasion := ready_of_takes due takes (by simp [Stage.wait])
    by_cases several : 1 < parts
    · refine .queues parts occasion several ?_
      simp [Turn.next, Turn.result, occasion, Relay.resume, several]
    · refine .runsOut parts occasion (by simp [flash?, occasion, several]) ?_
      simp [Turn.next, Turn.result, occasion, Relay.resume, several, Relay.perform]
  · cases counts

/-- Only a timer is one behind its turn, if none is started from outside. -/
theorem ticks_of_next (due : turn.IsDue backend)
    (uncalled : ∀ timer, turn.occasion ≠ .call (.start (.timer timer)))
    (next : turn.next.timer? = some timer) : turn.Ticks timer := by
  -- A task stays at its trade, so the timer was one before, or was started by a call.
  have trade : turn.next.trade? = some (.timer timer) := by
    cases ends : turn.next with
    | wait stage =>
      rw [ends] at next
      exact Stage.timer?_eq_some_iff.mp next
    | done outcome =>
      rw [ends] at next
      cases next
  rcases trade_cases trade with ⟨stage, takes, own⟩ | called
  · exact ticks due takes (Stage.timer?_eq_some_iff.mpr own)
  · exact absurd called (uncalled timer)

end Turn

/-- The generation that a timer belongs to. -/
def OverlayTimer.generation : OverlayTimer → UInt64
  | .bannerExpiry generation | .pyroReveal generation | .pyroEnd generation => generation

/-- The newest generation of what a timer is for. -/
def Overlay.newest (overlay : Overlay) : OverlayTimer → UInt64
  | .bannerExpiry _ => overlay.bannerGeneration
  | .pyroReveal _ | .pyroEnd _ => overlay.pyroGeneration

/-- What a timer is for is shown, or started anew. -/
def Flash.outdates : Flash → OverlayTimer → Bool
  | .banner .., .bannerExpiry _ | .animation, .pyroReveal _ | .animation, .pyroEnd _ => true
  | _, _ => false

/-- The turn shows what a timer is for, or starts it anew. -/
def Turn.outdates (timer : OverlayTimer) (turn : Turn) : Bool :=
  turn.flash?.any fun flash => flash.outdates timer

namespace Overlay

/-- The overlay after something was done to the banner or to the animation. -/
def flash (overlay : Overlay) : Flash → Overlay
  | .banner service team => (overlay.showFirstBlood service team).1
  | .dismissal => overlay.dismissFirstBlood.1
  | .animation => overlay.startPyro.1
  | .timeout timer => (overlay.ranOut timer).1

variable {overlay : Overlay}

/-- What is done to banner or animation is done to the overlay of the relay. -/
theorem flash_relay (relay : Relay) (flash : Flash) :
    (relay.flash flash).overlay = relay.overlay.flash flash := by
  -- Broadcasts and signals leave the overlay as it is.
  cases flash with
  | banner service team => rfl
  | dismissal => exact relay.overlayChanged_overlay _
  | animation => rfl
  | timeout timer =>
    rw [Relay.flash, Relay.runOut_eq, Relay.overlayChanged_overlay]
    rfl

/-- The banner is the one that is shown, until it is dismissed or its own timer runs out. -/
theorem banner_flash (flash : Flash) : (overlay.flash flash).banner = match flash with
    | .banner service team => .shown service team (overlay.bannerGeneration + 1)
    | .dismissal => .idle
    | .timeout (.bannerExpiry generation) =>
      if overlay.shownGeneration = some generation then .idle else overlay.banner
    | _ => overlay.banner := by
  -- Case by case, the banner is what the operation of the overlay leaves.
  cases flash with
  | banner service team => rfl
  | animation => rfl
  | dismissal =>
    simp only [Overlay.flash, dismissFirstBlood]
    split
    · rfl
    · assumption
  | timeout timer =>
    cases timer with
    | bannerExpiry generation =>
      obtain ⟨banner, newest, pyro, started, podium⟩ := overlay
      cases banner with
      | idle => rfl
      | shown service team other =>
        by_cases same : other = generation <;>
          simp [Overlay.flash, ranOut, expireFirstBlood, shownGeneration, same]
    | pyroReveal generation =>
      simp only [Overlay.flash, ranOut, revealPyro]
      split <;> rfl
    | pyroEnd generation =>
      simp only [Overlay.flash, ranOut, endPyro]
      split <;> rfl

/-- The animation starts with the backdrop, and goes on as its own timers run out. -/
theorem pyro_flash (flash : Flash) : (overlay.flash flash).pyro = match flash with
    | .animation => .backdrop
    | .timeout (.pyroReveal generation) =>
      if overlay.pyroGeneration = generation ∧ overlay.pyro = .backdrop then .effect
      else overlay.pyro
    | .timeout (.pyroEnd generation) =>
      if overlay.pyroGeneration = generation then .hidden else overlay.pyro
    | _ => overlay.pyro := by
  -- Case by case, the stage is what the operation of the overlay leaves.
  cases flash with
  | banner service team => rfl
  | animation => rfl
  | dismissal =>
    simp only [Overlay.flash, dismissFirstBlood]
    split <;> rfl
  | timeout timer =>
    cases timer with
    | bannerExpiry generation =>
      simp only [Overlay.flash, ranOut, expireFirstBlood]
      split
      · split <;> rfl
      · rfl
    | pyroReveal generation =>
      simp only [Overlay.flash, ranOut, revealPyro]
      split <;> rfl
    | pyroEnd generation =>
      simp only [Overlay.flash, ranOut, endPyro]
      by_cases own : overlay.pyroGeneration = generation
      · by_cases hidden : overlay.pyro = .hidden <;> simp [own, hidden]
      · simp [own]

/-- A timer that runs out leaves the generations alone. -/
theorem newest_ranOut (timer other : OverlayTimer) :
    (overlay.ranOut timer).1.newest other = overlay.newest other := by
  -- A timer that runs out takes something away, and gives out nothing.
  have banner : (overlay.ranOut timer).1.bannerGeneration = overlay.bannerGeneration := by
    cases timer with
    | bannerExpiry generation =>
      simp only [ranOut, expireFirstBlood]
      split
      · split <;> rfl
      · rfl
    | pyroReveal generation =>
      simp only [ranOut, revealPyro]
      split <;> rfl
    | pyroEnd generation =>
      simp only [ranOut, endPyro]
      split <;> rfl
  have pyro := (overlay.adjusts_ranOut timer).pyroGeneration
  cases other with
  | bannerExpiry generation => exact banner
  | pyroReveal generation => exact pyro
  | pyroEnd generation => exact pyro

/-- A dismissal leaves the generations alone. -/
theorem newest_dismissFirstBlood (timer : OverlayTimer) :
    overlay.dismissFirstBlood.1.newest timer = overlay.newest timer := by
  unfold dismissFirstBlood
  split <;> cases timer <;> rfl

/-- A banner that is shown is of the newest generation. -/
def Current (overlay : Overlay) : Prop :=
  ∀ generation, overlay.shownGeneration = some generation → generation = overlay.bannerGeneration

/-- A timer of an older generation finds a younger one, or nothing. -/
theorem ranOut_of_outdated (current : overlay.Current) {timer : OverlayTimer}
    (outdated : overlay.newest timer ≠ timer.generation) :
    overlay.ranOut timer = (overlay, false) := by
  -- What is shown is of the newest generation, so an older timer finds nothing of its own.
  cases timer with
  | bannerExpiry generation =>
    simp only [newest, OverlayTimer.generation] at outdated
    simp only [ranOut, expireFirstBlood]
    split
    · rename_i shown banner
      have newest := current shown (by simp [shownGeneration, banner])
      rw [if_neg (newest ▸ outdated)]
    · rfl
  | pyroReveal generation =>
    simp only [newest, OverlayTimer.generation] at outdated
    simp [ranOut, revealPyro, outdated]
  | pyroEnd generation =>
    simp only [newest, OverlayTimer.generation] at outdated
    simp [ranOut, endPyro, outdated]

end Overlay

namespace Turn

variable {turn : Turn} {timer : OverlayTimer}

/-- A turn does something to banner or animation, or stores a podium at most. -/
theorem Deed.flash_cases (deed : turn.Deed) :
    (turn.flash? = none ∧ ∃ winners, turn.after.overlay = turn.before.overlay.setPodium winners) ∨
      ∃ flash, turn.flash? = some flash ∧
        turn.after.overlay = turn.before.overlay.flash flash := by
  -- Turns without a flash are known to store a podium at most.
  cases does : turn.flash? with
  | none => exact .inl ⟨rfl, deed.overlay_eq does⟩
  | some flash =>
    refine .inr ⟨flash, rfl, ?_⟩
    rw [after_of_flash? does, Overlay.flash_relay]

/-- A generation is counted up by the turns that outdate its timers, and by no others. -/
theorem Deed.newest (deed : turn.Deed) (timer : OverlayTimer) :
    turn.after.overlay.newest timer =
      turn.before.overlay.newest timer + if turn.outdates timer then 1 else 0 := by
  rcases deed.flash_cases with ⟨idle, winners, after⟩ | ⟨flash, does, after⟩
  · rw [after, outdates, idle]
    cases timer <;> simp [Overlay.newest, Overlay.setPodium]
  · rw [after, outdates, does, Option.any_some]
    -- Only a banner and an animation have generations to count.
    cases flash with
    | banner service team =>
      cases timer <;>
        simp [Overlay.newest, Overlay.flash, Overlay.showFirstBlood, Flash.outdates]
    | animation =>
      cases timer <;> simp [Overlay.newest, Overlay.flash, Overlay.startPyro, Flash.outdates]
    | dismissal =>
      rw [Overlay.flash, Overlay.newest_dismissFirstBlood]
      simp [Flash.outdates]
    | timeout other =>
      rw [Overlay.flash, Overlay.newest_ranOut]
      simp [Flash.outdates]

/-- A turn that starts a timer outdates the older ones, and the timer is of its generation. -/
theorem outdates_of_timers (member : timer ∈ turn.timers) :
    turn.outdates timer = true ∧ turn.after.overlay.newest timer = timer.generation := by
  unfold timers at member
  cases does : turn.flash? with
  | none =>
    rw [does] at member
    cases member
  | some flash =>
    rw [does] at member
    have after : turn.after.overlay = turn.before.overlay.flash flash := by
      rw [after_of_flash? does, Overlay.flash_relay]
    rw [after, outdates, does, Option.any_some]
    -- A banner has one timer, and an animation has two.
    cases flash with
    | banner service team =>
      obtain rfl := List.mem_singleton.mp member
      exact ⟨rfl, rfl⟩
    | animation =>
      rcases List.mem_cons.mp member with rfl | last
      · exact ⟨rfl, rfl⟩
      · obtain rfl := List.mem_singleton.mp last
        exact ⟨rfl, rfl⟩
    | dismissal => cases member
    | timeout other => cases member

end Turn

/-- No timer is started from outside. -/
structure Untimed (tasks : List NewTask) (past : List Turn) : Prop where
  planned : ∀ timer, .timer timer ∉ tasks
  called : ∀ turn ∈ past, ∀ timer, turn.occasion ≠ .call (.start (.timer timer))

/-- What starts no timer by hand does so up to any turn. -/
theorem Untimed.front {tasks : List NewTask} {earlier since : List Turn}
    (untimed : Untimed tasks (earlier ++ since)) : Untimed tasks earlier :=
  ⟨untimed.planned, fun turn member => untimed.called turn (List.mem_append_left _ member)⟩

/-- A timer was started at a moment. -/
def StartedAt (past : List Turn) (timer : OverlayTimer) (moment : Nat) : Prop :=
  ∃ turn ∈ past, timer ∈ turn.timers ∧ turn.now.elapsed = moment

/-- A timer stands at a moment where it should, by when it was started. -/
def Stage.Timed (past : List Turn) (moment : Nat) : Stage → Prop
  | .starting (.timer timer) => StartedAt past timer moment
  | .timing timer deadline => ∃ started, StartedAt past timer started ∧
    deadline = started + timer.length ∧ moment ≤ deadline
  | .entering parts (.runOut timer) => parts = 1 ∧ ∃ started, StartedAt past timer started ∧
    moment = started + timer.length
  | _ => True

section Punctuality

variable {backend : Backend} {notificationInterval : Nat} {preferences : Preferences}
  {tasks : List NewTask} {past : List Turn} {world : World} {stage : Stage} {timer : OverlayTimer}
  {moment : Nat}

/-- A timer that was started at a moment stays so. -/
theorem StartedAt.more {moment : Nat} (started : StartedAt past timer moment) (turn : Turn) :
    StartedAt (past ++ [turn]) timer moment := by
  obtain ⟨starter, member, starts, at_moment⟩ := started
  exact ⟨starter, List.mem_append_left _ member, starts, at_moment⟩

/-- A stage that counts no timer down has nothing to keep to. -/
theorem Stage.Timed.of_timer?_eq_none (other : stage.timer? = none) : stage.Timed past moment := by
  -- The three stages that have something to keep to count a timer down.
  unfold Stage.Timed
  split
  · cases other
  · cases other
  · cases other
  · trivial

/-- A stage that keeps to its times does so behind another turn. -/
theorem Stage.Timed.more (timed : stage.Timed past moment) (turn : Turn) :
    stage.Timed (past ++ [turn]) moment := by
  -- Whenever the timer was started, it stays started then.
  unfold Stage.Timed at timed ⊢
  split at timed
  · exact timed.more turn
  · obtain ⟨started, at_start, deadline, before⟩ := timed
    exact ⟨started, at_start.more turn, deadline, before⟩
  · obtain ⟨single, started, at_start, now⟩ := timed
    exact ⟨single, started, at_start.more turn, now⟩
  · trivial

/-- A timer still stands where it should after time has passed. -/
theorem Stage.Timed.passes (timed : stage.Timed past world.elapsed) (waits : stage ∈ world.tasks)
    (since : world.elapsed ≤ moment) (idle : world.WaitsUntil moment) :
    stage.Timed past moment := by
  -- Whoever could have its turn at once has let no time pass.
  have hurried : world.relay.meets world.elapsed stage.wait = true → moment = world.elapsed :=
    fun met => Nat.le_antisymm (idle.le_of_met waits (Nat.le_refl _) met) since
  unfold Stage.Timed at timed ⊢
  split at timed
  · rw [hurried rfl]
    exact timed
  · obtain ⟨started, at_start, deadline, before⟩ := timed
    refine ⟨started, at_start, deadline, idle.le_of_met waits before ?_⟩
    simp [Stage.wait, Relay.meets]
  · rw [hurried rfl]
    exact timed
  · trivial

/-- In a prompt run, every timer stands where it should. -/
theorem PromptRun.timed
    (prompt : PromptRun backend (.initial notificationInterval preferences tasks) past world)
    (untimed : Untimed tasks past) : ∀ stage ∈ world.tasks, stage.Timed past world.elapsed := by
  induction prompt with
  | begin =>
    intro stage member
    obtain ⟨task, planned, rfl⟩ := List.mem_map.mp member
    cases task with
    | timer timer => exact absurd planned (untimed.planned timer)
    | _ => trivial
  | @step past world later turn prompt idle step ih =>
    intro stage waits
    have before : ∀ other ∈ world.tasks, other.Timed past turn.now.elapsed := fun other member =>
      (ih untimed.front other member).passes member step.clock idle
    rw [step.elapsed]
    rcases step.tasks_cases waits with stays | next | started
    · exact (before stage stays).more turn
    · cases counts : stage.timer? with
      | none => exact .of_timer?_eq_none counts
      | some timer =>
        -- The timer was one before the turn, and stood where it should.
        have own : turn.next.timer? = some timer := by rw [next]; exact counts
        cases Turn.ticks_of_next step.due (untimed.called turn (by simp)) own with
        | starts takes after =>
          obtain rfl : Stage.timing timer _ = stage := by simpa [after] using next
          have started := before _ (step.ready_mem takes)
          exact ⟨_, started.more turn, rfl, Nat.le_add_right _ _⟩
        | rings deadline takes come after =>
          obtain rfl : Stage.entering 1 (.runOut timer) = stage := by simpa [after] using next
          obtain ⟨started, at_start, same, until_then⟩ := before _ (step.ready_mem takes)
          exact ⟨rfl, started, at_start.more turn, by omega⟩
        | queues parts takes several after =>
          obtain ⟨single, _⟩ := before _ (step.ready_mem takes)
          omega
        | runsOut parts takes flash after =>
          rw [after] at next
          cases next
    · obtain ⟨task, told, rfl⟩ := List.mem_map.mp started
      cases task with
      | timer timer =>
        have quiet : turn.before.signals = [] := step.before ▸ prompt.run.quiet rfl
        exact ⟨turn, by simp, (step.deed.mem_timers quiet).mp started, rfl⟩
      | _ => trivial

/-- A timer runs out in the turn that its sleep leads to. -/
theorem Turn.occasion_of_timeout {turn : Turn} (out : turn.flash? = some (.timeout timer)) :
    ∃ parts, turn.occasion = .ready (.entering parts (.runOut timer)) := by
  -- Of all steps only one lets a timer run out.
  unfold Turn.flash? at out
  split at out
  · rename_i parts step occasion
    split at out
    · cases out
    · cases step with
      | runOut other =>
        cases out
        exact ⟨parts, occasion⟩
      | _ => cases out
  · cases out

/-- In a prompt run, a timer runs out when exactly its length has passed since it was started. -/
theorem PromptRun.started_before {earlier since : List Turn} {turn : Turn}
    (prompt : PromptRun backend (.initial notificationInterval preferences tasks) past world)
    (untimed : Untimed tasks past) (parts : past = earlier ++ turn :: since)
    (out : turn.flash? = some (.timeout timer)) :
    ∃ started, StartedAt earlier timer started ∧ turn.now.elapsed = started + timer.length := by
  -- The task waited in front of the turn and kept to its times, and in a prompt run it wakes on
  -- time.
  obtain ⟨between, _, before, idle, step⟩ := prompt.split parts
  obtain ⟨count, occasion⟩ := Turn.occasion_of_timeout out
  have member := step.ready_mem occasion
  have timed := before.timed (parts ▸ untimed).front _ member
  obtain ⟨_, started, at_start, now⟩ := timed.passes member step.clock idle
  exact ⟨started, at_start, now⟩

/-- A timer that was started has run out, or is still under way. -/
theorem PromptRun.ran_out_or_waits {earlier since : List Turn} {turn : Turn}
    (prompt : PromptRun backend (.initial notificationInterval preferences tasks) past world)
    (parts : past = earlier ++ turn :: since) (starts : timer ∈ turn.timers) :
    (∃ out ∈ since, out.flash? = some (.timeout timer)) ∨
      ∃ stage ∈ world.tasks, stage.timer? = some timer := by
  -- The timer is taken from stage to stage until it runs out.
  refine prompt.behind parts (fun since world =>
    (∃ out ∈ since, out.flash? = some (.timeout timer)) ∨
      ∃ stage ∈ world.tasks, stage.timer? = some timer) ?_ ?_
  · intro before after prompt step
    have quiet : turn.before.signals = [] := step.before ▸ prompt.run.quiet rfl
    exact .inr ⟨_, step.started_mem ((step.deed.mem_timers quiet).mpr starts), rfl⟩
  · rintro front between final later _ _ step (⟨out, member, done⟩ | ⟨stage, member, counts⟩)
    · exact .inl ⟨out, List.mem_append_left _ member, done⟩
    · rcases step.kept member with stays | taken
      · exact .inr ⟨stage, stays, counts⟩
      · have takes : final.occasion.stages = [stage] := by
          cases occasion : final.occasion <;> simp_all [Occasion.stages]
        cases Turn.ticks step.due takes counts with
        | starts takes next => exact .inr ⟨_, step.next_mem next, rfl⟩
        | rings deadline takes come next => exact .inr ⟨_, step.next_mem next, rfl⟩
        | queues parts takes several next => exact .inr ⟨_, step.next_mem next, rfl⟩
        | runsOut parts takes flash next => exact .inl ⟨final, by simp, flash⟩

end Punctuality

end Scoreboard
