import Scoreboard.Relay.Turn

/-! What the operations on the relay change, each in one equation. -/

namespace Scoreboard

/-- The overlay behind a timer, and whether it is another one. -/
def Overlay.ranOut (overlay : Overlay) : OverlayTimer → Overlay × Bool
  | .bannerExpiry generation => overlay.expireFirstBlood generation
  | .pyroReveal generation => overlay.revealPyro generation
  | .pyroEnd generation => overlay.endPyro generation

/-- Live events have a channel of their own, so the newest tick stays on its one. -/
theorem EventBus.newestTick_foldl_emit (events : List LiveEvent) : ∀ bus : EventBus,
    (events.foldl EventBus.emit bus).newestTick = bus.newestTick := by
  induction events with
  | nil => exact fun _ => rfl
  | cons event rest ih => exact fun bus => ih (bus.emit event)

namespace Relay

/-- What becomes of a round once it is there changes nothing that is shared. -/
@[simp] theorem finishRanking_relay (relay : Relay) (use : RankingUse) (tick : Tick)
    (result : Except ServiceError Snapshot) : (relay.finishRanking use tick result).1 = relay := by
  -- The uses differ in what they do with the round, not with the relay.
  unfold finishRanking
  split <;> rfl

/-- A task that asks for a round is turned down, finds it in the cache, or has to fetch it. -/
theorem askRanking_cases (relay : Relay) (use : RankingUse) (tick : Tick) :
    (tick < 0 ∧ relay.askRanking use tick =
      relay.finishRanking use tick (.error (.negativeTick tick))) ∨
    (0 ≤ tick ∧ ∃ snapshot, relay.rounds.get? tick = some snapshot ∧
      relay.askRanking use tick = (relay, .wait (.entering 1 (.settleRound use tick snapshot)))) ∨
    (0 ≤ tick ∧ relay.rounds.get? tick = none ∧
      relay.askRanking use tick = (relay, .wait (.fetchingRound use tick 0))) := by
  -- The sign of the tick is looked at before the cache.
  by_cases negative : tick < 0
  · exact .inl ⟨negative, by rw [askRanking, if_pos negative]⟩
  · have counted : 0 ≤ tick := Int64.not_lt.mp negative
    right
    cases kept : relay.rounds.get? tick with
    | some snapshot =>
      exact .inl ⟨counted, snapshot, rfl, by rw [askRanking, if_neg negative, kept]; rfl⟩
    | none => exact .inr ⟨counted, rfl, by rw [askRanking, if_neg negative, kept]⟩

/-- Asking for a round changes nothing that is shared. -/
@[simp] theorem askRanking_relay (relay : Relay) (use : RankingUse) (tick : Tick) :
    (relay.askRanking use tick).1 = relay := by
  -- The tick is refused, found in the cache, or asked for.
  rcases relay.askRanking_cases use tick with ⟨_, asked⟩ | ⟨_, _, _, asked⟩ | ⟨_, _, asked⟩
  · rw [asked, finishRanking_relay]
  · rw [asked]
  · rw [asked]

/-- A round that is served is kept and looked at, and a problem leads to a pause or the end. -/
theorem continueRanking_cases (relay : Relay) (use : RankingUse) (tick : Tick) (retry now : Nat)
    (served : Except ApiError Round) :
    (∃ round, served = .ok round ∧ relay.continueRanking use tick retry now served =
      ((relay.storeRound tick round).1,
        .wait (.entering 1 (.settleRound use tick (relay.storeRound tick round).2)))) ∨
    (∃ again deadline, relay.continueRanking use tick retry now served =
      (relay, .wait (.pausingRound use tick again deadline))) ∨
    ∃ problem, relay.continueRanking use tick retry now served =
      relay.finishRanking use tick (.error problem) := by
  cases served with
  | ok round => exact .inl ⟨round, rfl, rfl⟩
  | error problem =>
    right
    simp only [continueRanking]
    -- The task pauses before another attempt, or has had its last one.
    split
    · exact .inl ⟨_, _, rfl⟩
    · exact .inr ⟨_, rfl⟩

/-- The end of a turn in which an event was handed on changes nothing that is shared. -/
@[simp] theorem afterEvent_relay (relay : Relay) (use : EventUse) :
    (relay.afterEvent use).1 = relay := by
  cases use <;> rfl

/-- The end of a poll changes nothing that is shared. -/
@[simp] theorem afterPoll_relay (relay : Relay) (again : Bool) (delay : Option Span) (now : Nat) :
    (relay.afterPoll again delay now).1 = relay := by
  -- It may have broken off, and there may be another poll.
  cases delay <;> cases again <;> rfl

/-- Events change the bus and the signals, and nothing else. -/
theorem emitAll_eq (events : List LiveEvent) : ∀ relay : Relay, relay.emitAll events =
    { relay with
      bus := events.foldl EventBus.emit relay.bus
      signals := relay.signals ++ events.map .event } := by
  induction events with
  | nil =>
    intro relay
    rw [List.map_nil, List.append_nil]
    rfl
  | cons event rest ih =>
    intro relay
    -- The signal of the first event stands in front of those of the rest.
    have signalled : (relay.emit event).signals ++ rest.map .event =
        relay.signals ++ (event :: rest).map .event := by
      simp [emit, signal]
    have first : relay.emitAll (event :: rest) = (relay.emit event).emitAll rest := rfl
    rw [first, ih, signalled]
    rfl

/-- A round that is processed changes the histories, and its first bloods are told. -/
theorem processRound_eq (relay : Relay) (previous round : Round) :
    relay.processRound previous round = { relay with
      histories := (if servicesChanged previous round then .initial else relay.histories).extend
        round
      bus := (detectFirstBloods previous round).foldl EventBus.emit relay.bus
      signals := relay.signals ++ (detectFirstBloods previous round).map .event } := by
  rw [processRound, emitAll_eq]

/-- A round is processed when it is the newest, follows a known one and is new, and only then. -/
theorem settleRound_cases (relay : Relay) (tick : Tick) (round : Round) :
    (∃ previous, tick = relay.scoreboardTick ∧ relay.rounds.get? (tick - 1) = some previous ∧
      relay.rounds.processed < tick ∧ relay.settleRound tick round =
        { relay with rounds := relay.rounds.claim tick }.processRound previous.round round) ∨
    ((tick = relay.scoreboardTick → relay.rounds.contains (tick - 1) = true →
      ¬ relay.rounds.processed < tick) ∧ relay.settleRound tick round = relay) := by
  unfold settleRound
  by_cases newest : tick = relay.scoreboardTick
  · rw [if_pos newest]
    cases found : relay.rounds.get? (tick - 1) with
    | none =>
      -- Without the round before there is nothing to compare with.
      refine .inr ⟨fun _ contained => ?_, rfl⟩
      simp [RoundCache.contains, Table.contains, RoundCache.get?] at contained found
      simp [found] at contained
    | some previous =>
      by_cases fresh : relay.rounds.processed < tick
      · exact .inl ⟨previous, newest, rfl, fresh, by simp [RoundCache.claimable, fresh]⟩
      · exact .inr ⟨fun _ _ => fresh, by simp [RoundCache.claimable, fresh]⟩
  · rw [if_neg newest]
    exact .inr ⟨fun same => absurd same newest, rfl⟩

/-- A round that is settled changes documents, and tells of live events at most. -/
theorem settleRound_eq (relay : Relay) (tick : Tick) (round : Round) :
    ∃ rounds histories, ∃ events : List LiveEvent,
      relay.settleRound tick round = { relay with
      rounds := rounds
      histories := histories
      bus := events.foldl EventBus.emit relay.bus
      signals := relay.signals ++ events.map .event } := by
  -- The round is processed or was before, and the second changes nothing at all.
  rcases relay.settleRound_cases tick round with ⟨previous, _, _, _, settled⟩ | ⟨_, settled⟩
  · -- Before the round is processed, its tick is claimed.
    rw [settled, processRound_eq]
    exact ⟨_, _, _, rfl⟩
  · refine ⟨relay.rounds, relay.histories, [], ?_⟩
    rw [settled, List.map_nil, List.append_nil]
    rfl

/-- What a response changed is told on the bus and to the dashboards. -/
theorem tellTransition_eq (relay : Relay) (current : CurrentState) (transition : Transition)
    (delay : Span) :
    ∃ bus hub signals, (relay.tellTransition current transition delay).1 =
      { relay with bus := bus, hub := hub, signals := signals } := by
  obtain ⟨scoreboardTickChanged, finishedAt⟩ := transition
  -- The game may have ended, and the scoreboard may be another one.
  cases finishedAt <;> cases scoreboardTickChanged <;> exact ⟨_, _, _, rfl⟩

/-- A poll takes the document in, and tells what changed unless it breaks off. -/
theorem absorbState_cases (relay : Relay) (response : StateResponse) (now : Int) (jitter : Float) :
    (nextPollDelay? response.state (unixSecondOf now) jitter = none ∧
      relay.absorbState response now jitter = ({ relay with
        live := relay.live.apply response now
        degraded := false }, none)) ∨
    ∃ delay, nextPollDelay? response.state (unixSecondOf now) jitter = some delay ∧
      relay.absorbState response now jitter =
        Prod.map id some (({ relay with
          live := relay.live.apply response now
          degraded := false } : Relay).tellTransition response.state
            (relay.live.transitionTo response.state) delay) := by
  -- The poll breaks off exactly when there is no delay to the next one.
  unfold absorbState
  cases nextPollDelay? response.state (unixSecondOf now) jitter with
  | none => exact .inl ⟨rfl, rfl⟩
  | some delay => exact .inr ⟨delay, rfl, rfl⟩

/-- A poll changes the state of the game, and tells of that. -/
theorem absorbState_eq (relay : Relay) (response : StateResponse) (now : Int) (jitter : Float) :
    ∃ bus hub signals, (relay.absorbState response now jitter).1 = { relay with
      live := relay.live.apply response now
      degraded := false
      bus := bus
      hub := hub
      signals := signals } := by
  -- A poll that breaks off has taken the state in before.
  rcases relay.absorbState_cases response now jitter with ⟨_, broken⟩ | ⟨delay, _, whole⟩
  · rw [broken]
    exact ⟨_, _, _, rfl⟩
  · -- What is told comes on top of what was taken in.
    rw [whole]
    exact tellTransition_eq _ _ _ _

/-- A failed poll leaves a degraded relay, and the dashboards may be told. -/
theorem missState_eq (relay : Relay) :
    ∃ hub signals, relay.missState =
      { relay with degraded := true, hub := hub, signals := signals } := by
  -- They are told when the poll before had not failed.
  unfold missState updateDegraded
  cases relay.degraded <;> exact ⟨_, _, rfl⟩

/-- An overlay that may have changed takes its place, and the dashboards may be told. -/
theorem overlayChanged_eq (relay : Relay) (result : Overlay × Bool) :
    ∃ hub signals, (relay.overlayChanged result).1 =
      { relay with overlay := result.1, hub := hub, signals := signals } := by
  obtain ⟨overlay, _ | _⟩ := result <;> exact ⟨_, _, rfl⟩

/-- A change of the overlay leaves the one that it came with. -/
theorem overlayChanged_overlay (relay : Relay) (result : Overlay × Bool) :
    (relay.overlayChanged result).1.overlay = result.1 := by
  obtain ⟨hub, signals, changed⟩ := relay.overlayChanged_eq result
  rw [changed]

/-- A timer that runs out changes the overlay as any other change does. -/
theorem runOut_eq (relay : Relay) (timer : OverlayTimer) :
    relay.runOut timer = (relay.overlayChanged (relay.overlay.ranOut timer)).1 := by
  cases timer <;> rfl

end Relay

end Scoreboard
