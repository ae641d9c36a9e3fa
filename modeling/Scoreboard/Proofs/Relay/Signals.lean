import Scoreboard.Proofs.Channel.Broadcast
import Scoreboard.Proofs.Relay.Deeds

/-! Signals: they tell of everything that comes to the bus and to the dashboards. -/

namespace Scoreboard

/-- The hub after what a signal tells of. -/
def Hub.hear (hub : Hub) : Signal → Hub
  | .broadcast event => hub.broadcast event
  | _ => hub

/-- The bus after what a signal tells of. -/
def EventBus.hear (bus : EventBus) : Signal → EventBus
  | .event told => bus.emit told
  | .newestTick tick => bus.publish tick
  | _ => bus

/-- The event that a signal brings to the dashboards. -/
def Signal.broadcast? : Signal → Option ServerEvent
  | .broadcast told => some told
  | _ => none

/-- The newest tick that a signal tells of. -/
def Signal.newestTick? : Signal → Option Tick
  | .newestTick tick => some tick
  | _ => none

/-- What tells of a response that was taken in: the end of the game, then another scoreboard. -/
def Transition.signals (transition : Transition) (current : CurrentState) : List Signal :=
  (transition.finishedAt.map fun tick => Signal.event (.final tick)).toList ++
    (transition.scoreboardTickChanged.map fun tick =>
      [Signal.newestTick tick, .broadcast (.scoreboardTick current)]).getD []

namespace Turn

/-- The events of a name that the turn brings to the dashboards. -/
def broadcasts (turn : Turn) (name : String) : List ServerEvent :=
  (turn.after.signals.filterMap Signal.broadcast?).filter fun event => event.event = some name

/-- The newest ticks that the turn publishes. -/
def published (turn : Turn) : List Tick :=
  turn.after.signals.filterMap Signal.newestTick?

end Turn

/-- The signals of the turns of a run, in their order. -/
def signalsOf (past : List Turn) : List Signal :=
  past.flatMap fun turn => turn.after.signals

/-- The events of a name that came to the dashboards, in their order. -/
def broadcastsOf (past : List Turn) (name : String) : List ServerEvent :=
  past.flatMap fun turn => turn.broadcasts name

/-- All events that came to the dashboards, in their order. -/
def announcementsOf (past : List Turn) : List ServerEvent :=
  (signalsOf past).filterMap Signal.broadcast?

/-- The events of a name are found among all events that came to the dashboards. -/
theorem broadcastsOf_eq (past : List Turn) (name : String) :
    broadcastsOf past name = (announcementsOf past).filter fun event => event.event = some name := by
  simp only [broadcastsOf, announcementsOf, signalsOf, Turn.broadcasts, List.filterMap_flatMap,
    List.filter_flatMap]

/-- All that the dashboards are told of a response is the state behind another scoreboard. -/
theorem Transition.eq_of_mem_signals {transition : Transition} {current : CurrentState}
    {event : ServerEvent} (told : .broadcast event ∈ transition.signals current) :
    event = .scoreboardTick current := by
  -- The broadcasts of a transition are those of its new scoreboard.
  rcases List.mem_append.mp told with ended | moved
  · -- The end of the game is told on the bus alone.
    simp at ended
  · cases changed : transition.scoreboardTickChanged with
    | none => simp [changed] at moved
    | some tick => simpa [changed] using moved

/-- What is told of a response starts no task. -/
theorem Transition.task?_of_mem_signals {transition : Transition} {current : CurrentState} {signal : Signal}
    (told : signal ∈ transition.signals current) : signal.task? = none := by
  obtain ⟨scoreboardTickChanged, finishedAt⟩ := transition
  -- It is the end of the game, another newest tick or an event to the dashboards.
  cases finishedAt <;> cases scoreboardTickChanged <;> simp [Transition.signals] at told
  · rcases told with rfl | rfl <;> rfl
  · rw [told]
    rfl
  · rcases told with rfl | rfl | rfl <;> rfl

namespace Relay

/-- A relay becomes a later one, with signals that tell what came to the bus and to the hub. -/
structure Tells (relay later : Relay) (told : List Signal) : Prop where
  signals : later.signals = relay.signals ++ told
  hub : later.hub = told.foldl Hub.hear relay.hub
  bus : later.bus = told.foldl EventBus.hear relay.bus

variable {relay later : Relay}

/-- Where the bus, the hub and the signals stay, nothing is told. -/
theorem Tells.nothing (signals : later.signals = relay.signals) (hub : later.hub = relay.hub)
    (bus : later.bus = relay.bus) : relay.Tells later [] :=
  ⟨by rw [signals, List.append_nil], hub, bus⟩

/-- An event on the bus tells of this event. -/
theorem tells_emit (event : LiveEvent) : relay.Tells (relay.emit event) [.event event] :=
  ⟨rfl, rfl, rfl⟩

/-- A broadcast tells of what is broadcast. -/
theorem tells_broadcast (event : ServerEvent) :
    relay.Tells (relay.broadcast event) [.broadcast event] :=
  ⟨rfl, rfl, rfl⟩

/-- A task that is started is told of. -/
theorem tells_start (task : NewTask) : relay.Tells (relay.start task) [.start task] :=
  ⟨rfl, rfl, rfl⟩

/-- Live events are told to nobody but the bus. -/
theorem tells_events (events : List LiveEvent) {rounds : RoundCache} {histories : HistoryCache} :
    relay.Tells { relay with
      rounds := rounds
      histories := histories
      bus := events.foldl EventBus.emit relay.bus
      signals := relay.signals ++ events.map .event } (events.map .event) := by
  -- Neither the dashboards nor the tasks are touched, and the bus takes the events one by one.
  refine ⟨rfl, ?_, ?_⟩
  · -- No live event comes to the dashboards.
    have silent : ∀ hub : Hub, (events.map Signal.event).foldl Hub.hear hub = hub := by
      induction events with
      | nil => exact fun _ => rfl
      | cons event rest ih => exact ih
    rw [silent]
  · -- What the signals tell the bus is what it was told itself.
    rw [List.foldl_map]
    rfl

/-- What a response changed is told by the end of the game, and then by another scoreboard. -/
theorem tells_tellTransition (relay : Relay) (current : CurrentState) (transition : Transition)
    (delay : Span) : relay.Tells (relay.tellTransition current transition delay).1
      (transition.signals current) := by
  obtain ⟨scoreboardTickChanged, finishedAt⟩ := transition
  cases finishedAt <;> cases scoreboardTickChanged <;>
    exact ⟨by simp [tellTransition, Transition.signals, emit, publish, broadcast, signal], rfl, rfl⟩

/-- A poll tells of what its response changed, unless it breaks off. -/
theorem tells_absorbState (relay : Relay) (response : StateResponse) (now : Int) (jitter : Float) :
    relay.Tells (relay.absorbState response now jitter).1
      (if (nextPollDelay? response.state (unixSecondOf now) jitter).isSome then
        (relay.live.transitionTo response.state).signals response.state
      else []) := by
  -- The state is taken in silently, and what is told comes behind it.
  rcases relay.absorbState_cases response now jitter with ⟨none, broken⟩ | ⟨delay, some, whole⟩
  · rw [none, broken]
    exact .nothing rfl rfl rfl
  · -- The document that was taken in before is neither on the bus nor in the hub.
    rw [some, whole]
    have told := ({ relay with
      live := relay.live.apply response now
      degraded := false } : Relay).tells_tellTransition response.state
        (relay.live.transitionTo response.state) delay
    exact ⟨told.signals, told.hub, told.bus⟩

/-- A failed poll tells the dashboards at most that the backend cannot be reached. -/
theorem tells_missState (relay : Relay) :
    relay.Tells relay.missState (if relay.degraded then []
      else [.broadcast (.info "scoreboard backend unreachable")]) := by
  -- Once the relay is degraded, another failure is no news.
  unfold missState updateDegraded
  cases relay.degraded
  · exact ⟨rfl, rfl, rfl⟩
  · exact .nothing rfl rfl rfl

/-- An overlay that changed is told to the dashboards, and one that did not is not. -/
theorem tells_overlayChanged (relay : Relay) (result : Overlay × Bool) :
    relay.Tells (relay.overlayChanged result).1
      (if result.2 then [.broadcast (.overlay result.1)] else []) := by
  obtain ⟨overlay, _ | _⟩ := result
  · exact .nothing rfl rfl rfl
  · exact ⟨rfl, rfl, rfl⟩

/-- A broadcast of a change is one of the overlay. -/
theorem mem_overlayChanged {result : Overlay × Bool} {event : ServerEvent}
    (told : .broadcast event ∈ if result.2 then [Signal.broadcast (.overlay result.1)] else []) :
    event = .overlay result.1 := by
  split at told
  · simpa using told
  · cases told

/-- A banner goes to the dashboards, and its timer starts. -/
theorem tells_showBanner (relay : Relay) (service team : String) :
    relay.Tells (relay.showBanner service team)
      [.broadcast (.overlay (relay.showBanner service team).overlay),
        .start (.timer (.bannerExpiry (relay.overlay.showFirstBlood service team).2))] :=
  ⟨by simp [showBanner, start, broadcastOverlay, broadcast, signal], rfl, rfl⟩

/-- The backdrop of the animation goes to the dashboards, and both its timers start. -/
theorem tells_playPyro (relay : Relay) :
    relay.Tells relay.playPyro
      [.broadcast (.overlay relay.playPyro.overlay),
        .start (.timer (.pyroReveal relay.overlay.startPyro.2)),
        .start (.timer (.pyroEnd relay.overlay.startPyro.2))] :=
  ⟨by simp [playPyro, start, broadcastOverlay, broadcast, signal], rfl, rfl⟩

/-- A dashboard that joins is greeted. -/
theorem tells_joinDashboard (relay : Relay) :
    relay.Tells relay.joinDashboard.1 [.broadcast (.info "public stream connected")] :=
  ⟨rfl, rfl, rfl⟩

/-- Preferences that are updated are told to the dashboards. -/
theorem tells_updatePreferences (preferences : Preferences) :
    relay.Tells (relay.updatePreferences preferences) [.broadcast (.preferences preferences)] :=
  ⟨rfl, rfl, rfl⟩

end Relay

namespace Turn

variable {turn : Turn}

/-- The events that a turn can bring to the dashboards. -/
inductive Announces (turn : Turn) : ServerEvent → Prop
  | tick (current : CurrentState) : Announces turn (.scoreboardTick current)
  | message (text : String) : Announces turn (.info text)
  | blood (service team : String) : Announces turn (.firstBlood service team)
  | preferences (preferences : Preferences) : Announces turn (.preferences preferences)
  | overlay : Announces turn (.overlay turn.after.overlay)
  | gameOver (parts : Nat) (tick : Tick) (round : Round)
      (occasion : turn.occasion = .ready (.entering parts (.nameWinners tick round)))
      (last : ¬ 1 < parts) : Announces turn (.gameOver tick (podium round turn.before.teams))

/-- Every deed tells of what it brings to the bus and to the dashboards, and they get no more. -/
theorem Deed.tells (deed : turn.Deed) : ∃ told, turn.before.Tells turn.after told ∧
    ∀ event, .broadcast event ∈ told → turn.Announces event := by
  -- A deed of which nobody hears brings no event.
  have of_nothing : turn.before.Tells turn.after [] → ∃ told, turn.before.Tells turn.after told ∧
      ∀ event, .broadcast event ∈ told → turn.Announces event :=
    fun tells => ⟨[], tells, fun _ none => nomatch none⟩
  -- An overlay that is told is the one that the turn leaves.
  have of_overlay : ∀ {result : Overlay × Bool},
      turn.after = (turn.before.overlayChanged result).1 →
      ∃ told, turn.before.Tells turn.after told ∧
        ∀ event, .broadcast event ∈ told → turn.Announces event := by
    intro result after
    refine ⟨_, after ▸ turn.before.tells_overlayChanged result, fun event told => ?_⟩
    have left : turn.after.overlay = result.1 := after ▸ turn.before.overlayChanged_overlay result
    rw [Relay.mem_overlayChanged told, ← left]
    exact .overlay
  cases deed with
  | settles parts use tick snapshot occasion last after =>
    obtain ⟨rounds, histories, events, settled⟩ :=
      turn.before.settleRound_eq tick snapshot.round
    exact ⟨_, after.trans settled ▸ Relay.tells_events events, by simp⟩
  | misses plain after =>
    refine ⟨_, after ▸ turn.before.tells_missState, fun event told => ?_⟩
    split at told
    · cases told
    · cases List.mem_singleton.mp told
      exact .message _
  | absorbs parts again response occasion plain after =>
    refine ⟨_, after ▸ turn.before.tells_absorbState response _ _, fun event told => ?_⟩
    -- The end of the game goes to the bus alone, and another scoreboard to the dashboards too.
    have moved : event = .scoreboardTick response.state := by
      split at told
      · exact Transition.eq_of_mem_signals told
      · cases told
    rw [moved]
    exact .tick response.state
  | blood use service team hands plain after =>
    refine ⟨_, after ▸ Relay.tells_broadcast _, fun event told => ?_⟩
    cases List.mem_singleton.mp told
    exact .blood service team
  | names parts tick round occasion last after =>
    refine ⟨_, after ▸ Relay.tells_broadcast _, fun event told => ?_⟩
    cases List.mem_singleton.mp told
    exact .gameOver parts tick round occasion last
  | shows service team plain after =>
    refine ⟨_, after ▸ turn.before.tells_showBanner service team, fun event told => ?_⟩
    have shown : event = .overlay turn.after.overlay := by simpa [after] using told
    exact shown ▸ .overlay
  | plays parts winners occasion last after =>
    refine ⟨_, after ▸ turn.before.tells_playPyro, fun event told => ?_⟩
    have shown : event = .overlay turn.after.overlay := by simpa [after] using told
    exact shown ▸ .overlay
  | dismisses plain after => exact of_overlay after
  | runsOut timer plain after => exact of_overlay (after.trans (turn.before.runOut_eq timer))
  | joins plain after =>
    refine ⟨_, after ▸ turn.before.tells_joinDashboard, fun event told => ?_⟩
    cases List.mem_singleton.mp told
    exact .message _
  | prefers preferences plain after =>
    refine ⟨_, after ▸ Relay.tells_updatePreferences preferences, fun event told => ?_⟩
    cases List.mem_singleton.mp told
    exact .preferences preferences
  -- A task that starts and a live event come to no dashboard.
  | final use tick hands plain after => exact ⟨_, after ▸ Relay.tells_start _, by simp⟩
  | emits event plain after => exact ⟨_, after ▸ Relay.tells_emit _, by simp⟩
  -- All other deeds leave the bus, the hub and the signals alone.
  | goes goes after => exact of_nothing (after ▸ .nothing rfl rfl rfl)
  | _ => exact of_nothing (by rw [‹turn.after = _›]; exact .nothing rfl rfl rfl)

/-- A turn that starts from a quiet relay tells everything with its signals. -/
theorem Deed.tells_signals (deed : turn.Deed) (quiet : turn.before.signals = []) :
    turn.before.Tells turn.after turn.after.signals := by
  -- Nothing stands in front of what the deed tells.
  obtain ⟨told, tells, _⟩ := deed.tells
  have all : turn.after.signals = told := by rw [tells.signals, quiet, List.nil_append]
  exact all ▸ tells

/-- What a turn from a quiet relay brings to the dashboards is one of those events. -/
theorem Deed.announces (deed : turn.Deed) (quiet : turn.before.signals = []) {event : ServerEvent}
    (brought : .broadcast event ∈ turn.after.signals) : turn.Announces event := by
  -- Signals that were there before would be news of other turns, and there are none.
  obtain ⟨told, tells, announced⟩ := deed.tells
  rw [tells.signals, quiet, List.nil_append] at brought
  exact announced event brought

/-- The events of a name that a turn from a quiet relay brings are among what it tells. -/
theorem broadcasts_of_tells {told : List Signal} (tells : turn.before.Tells turn.after told)
    (quiet : turn.before.signals = []) (name : String) : turn.broadcasts name =
      (told.filterMap Signal.broadcast?).filter fun event => event.event = some name := by
  rw [Turn.broadcasts, tells.signals, quiet, List.nil_append]

/-- A turn that tells of no event of a name brings none. -/
theorem broadcasts_eq_nil {told : List Signal} (tells : turn.before.Tells turn.after told)
    (quiet : turn.before.signals = []) {name : String}
    (others : ∀ event, .broadcast event ∈ told → event.event ≠ some name) :
    turn.broadcasts name = [] := by
  rw [broadcasts_of_tells tells quiet, List.filter_eq_nil_iff]
  intro event member
  obtain ⟨signal, held, brought⟩ := List.mem_filterMap.mp member
  -- Only the signal of a broadcast brings an event.
  cases signal with
  | broadcast other =>
    cases brought
    simpa using others event held
  | _ => cases brought

end Turn

/-- The hub and the bus are what all signals of a run have made of them. -/
theorem Run.heard {backend : Backend} {start world : World} {past : List Turn}
    (quiet : start.relay.signals = []) (run : Run backend start past world) :
    world.relay.hub = (signalsOf past).foldl Hub.hear start.relay.hub ∧
      world.relay.bus = (signalsOf past).foldl EventBus.hear start.relay.bus := by
  induction run with
  | begin => exact ⟨rfl, rfl⟩
  | @step past world later turn run step ih =>
    -- The last turn goes on from what the turns before have made.
    rw [← step.before] at ih
    have tells := step.deed.tells_signals (step.before ▸ run.quiet quiet)
    have told : signalsOf (past ++ [turn]) = signalsOf past ++ turn.after.signals := by
      simp [signalsOf]
    rw [step.relay, told, List.foldl_append, List.foldl_append, ← ih.1, ← ih.2]
    exact ⟨tells.hub, tells.bus⟩

/-- The bus keeps the end of everything that it has been told. -/
theorem EventBus.holds_hear {bus : EventBus} {capacity : Nat} {history : List LiveEvent}
    (holds : bus.events.Holds capacity history) (signals : List Signal) :
    (signals.foldl EventBus.hear bus).events.Holds capacity
      (history ++ signals.filterMap Signal.event?) := by
  -- Only events go to the channel that the dispatcher listens on.
  induction signals generalizing bus history with
  | nil => simpa using holds
  | cons signal rest ih =>
    cases signal with
    | event told =>
      have emitted : (bus.emit told).events.Holds capacity (history ++ [told]) := holds.send told
      simpa [Signal.event?, hear] using ih emitted
    | newestTick tick =>
      have published : (bus.publish tick).events.Holds capacity history := holds
      exact ih published
    | broadcast event => exact ih holds
    | start task => exact ih holds

/-- The hub keeps the end of everything that it was given for the dashboards. -/
theorem Hub.holds_hear {hub : Hub} {capacity : Nat} {history : List ServerEvent}
    (holds : hub.channel.Holds capacity history) (signals : List Signal) :
    (signals.foldl Hub.hear hub).channel.Holds capacity
      (history ++ signals.filterMap Signal.broadcast?) := by
  -- Live events and ticks pass the hub by.
  induction signals generalizing hub history with
  | nil => simpa using holds
  | cons signal rest ih =>
    cases signal with
    | broadcast event =>
      have given : (hub.broadcast event).channel.Holds capacity (history ++ [event]) :=
        holds.send event
      simpa [Signal.broadcast?, hear] using ih given
    | event told => exact ih holds
    | newestTick tick => exact ih holds
    | start task => exact ih holds

section Channels

variable {backend : Backend} {notificationInterval : Nat} {preferences : Preferences}
  {tasks : List NewTask} {past : List Turn} {world : World}

/-- In every run, the bus keeps the last sixty-four of the events that were emitted. -/
theorem Run.bus_holds
    (run : Run backend (.initial notificationInterval preferences tasks) past world) :
    world.relay.bus.events.Holds 64 (past.flatMap Turn.events) := by
  -- A bus that was told nothing is empty.
  have empty : EventBus.initial.events.Holds 64 [] := Broadcast.holds_ofCapacity 64
  have told : past.flatMap Turn.events = (signalsOf past).filterMap Signal.event? := by
    simp only [signalsOf, List.filterMap_flatMap]
    rfl
  rw [(run.heard rfl).2, told]
  exact EventBus.holds_hear empty _

/-- In every run, the hub keeps the last thirty-two of the events that came to the dashboards. -/
theorem Run.hub_holds
    (run : Run backend (.initial notificationInterval preferences tasks) past world) :
    world.relay.hub.channel.Holds 32 (announcementsOf past) := by
  -- A hub that was given nothing is empty.
  have empty : Hub.initial.channel.Holds 32 [] := Broadcast.holds_ofCapacity 32
  rw [(run.heard rfl).1]
  exact Hub.holds_hear empty _

end Channels

end Scoreboard
