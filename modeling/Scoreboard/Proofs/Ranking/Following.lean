import Mathlib.Data.List.Chain
import Scoreboard.Proofs.Ranking.FirstBlood
import Scoreboard.Proofs.Relay.Signals

/-! The poller and the follower by themselves: what each of their turns does to ticks and rounds. -/

namespace Scoreboard

/-- The scoreboard tick that a turn takes in from a poll, none for any other turn. -/
def Turn.polled? (turn : Turn) : Option Tick :=
  match turn.occasion with
  | .ready (.entering parts (.absorbState _ response)) =>
    if 1 < parts then none else some response.state.scoreboardTick
  | _ => none

/-- The scoreboard ticks that polls brought, in the order of the turns. -/
def polledTicks (past : List Turn) : List Tick :=
  past.filterMap Turn.polled?

/-- Ticks of which each is the one before or the one right behind that. -/
def RisingByOne (ticks : List Tick) : Prop :=
  ticks.IsChain fun tick next => next = tick ∨ next.toInt = tick.toInt + 1

/-- Where the poller waits. -/
def Stage.Polls : Stage → Prop
  | .starting .poller | .polling true | .resting _ | .entering 1 (.absorbState true _) => True
  | _ => False

namespace Relay

/-- The scoreboard has reached the tick on the channel, unless that is none of a game. -/
def Level (relay : Relay) : Prop :=
  0 ≤ relay.newestTick → relay.newestTick ≤ relay.scoreboardTick

/-- The follower is after the round of a tick, and all rounds it has are of earlier ticks. -/
structure Wants (relay : Relay) (tick : Tick) : Prop where
  counted : 0 ≤ tick
  announced : tick ≤ relay.newestTick
  newer : ∀ other snapshot, relay.rounds.get? other = some snapshot → other < tick

/-- The follower has the round of a tick, and is about to look at it. -/
structure Holds (relay : Relay) (tick : Tick) (snapshot : Snapshot) : Prop where
  counted : 0 ≤ tick
  reached : tick ≤ relay.scoreboardTick
  kept : relay.rounds.get? tick = some snapshot

end Relay

/-- Where the follower waits, given the relay. -/
def Stage.Follows (relay : Relay) : Stage → Prop
  | .starting .follower | .watching _ => True
  | .fetchingRound (.follow _) tick _ | .pausingRound (.follow _) tick _ _ => relay.Wants tick
  | .entering 1 (.settleRound (.follow _) tick snapshot) => relay.Holds tick snapshot
  | _ => False

/-- What every turn of the poller and of the follower does to ticks and rounds. -/
structure Turn.Advance (turn : Turn) : Prop where
  /-- A look is at a round that is kept, for a tick the scoreboard has reached. -/
  looks : ∀ tick snapshot, turn.check? = some (tick, snapshot) →
    turn.before.Holds tick snapshot ∧ turn.polled? = none
  keeps : ∀ tick snapshot, turn.before.rounds.get? tick = some snapshot →
    turn.after.rounds.get? tick = some snapshot
  /-- A round that was not there before is of a later tick than all that were. -/
  adds : ∀ tick snapshot, turn.after.rounds.get? tick = some snapshot →
    turn.before.rounds.get? tick = some snapshot ∨ turn.before.Wants tick
  scoreboard : turn.after.scoreboardTick = turn.polled?.getD turn.before.scoreboardTick
  /-- The channel is written with the scoreboard tick only, and a poll may fail to write it. -/
  newest : turn.after.newestTick = turn.before.newestTick ∨
    turn.after.newestTick = turn.after.scoreboardTick
  started : turn.after.startedStages = []

/-- A turn that looks at no round and leaves the rounds alone advances, if its ticks are right. -/
theorem Turn.Advance.of_rounds {turn : Turn} (unlooked : turn.check? = none)
    (rounds : turn.after.rounds = turn.before.rounds)
    (scoreboard : turn.after.scoreboardTick = turn.polled?.getD turn.before.scoreboardTick)
    (newest : turn.after.newestTick = turn.before.newestTick ∨
      turn.after.newestTick = turn.after.scoreboardTick)
    (started : turn.after.startedStages = []) : turn.Advance where
  -- Without a look the rounds stay, and so does whatever they hold.
  looks tick snapshot looked := by
    rw [unlooked] at looked
    cases looked
  keeps tick snapshot kept := by rwa [rounds]
  adds tick snapshot kept := by
    rw [rounds] at kept
    exact .inl kept
  scoreboard := scoreboard
  newest := newest
  started := started

/-- A turn that leaves everything alone advances, by nothing. -/
theorem Turn.Advance.of_same {turn : Turn} (unpolled : turn.polled? = none)
    (unlooked : turn.check? = none) (after : turn.after = turn.before)
    (quiet : turn.before.signals = []) : turn.Advance := by
  -- The signals of the turn are those in front of it, and there are none.
  have started : turn.after.startedStages = [] := by
    rw [after, Relay.startedStages, quiet]
    rfl
  refine .of_rounds unlooked (congrArg Relay.rounds after) ?_ (.inl ?_) started
  · rw [unpolled, after]
    rfl
  · rw [after]

/-- A turn of the poller leaves the rounds alone, and the poller goes on unless it breaks off. -/
structure Turn.ByPoller (turn : Turn) : Prop where
  next : ∀ stage, turn.next = .wait stage → stage.Polls
  rounds : turn.after.rounds = turn.before.rounds
  advance : turn.Advance

/-- A turn of the follower takes no poll in, and the follower goes on. -/
structure Turn.ByFollower (turn : Turn) : Prop where
  next : ∃ stage, turn.next = .wait stage ∧ stage.Follows turn.after
  unpolled : turn.polled? = none
  advance : turn.Advance

namespace Relay

/-- What is told of a response may write the channel, with the tick that is another one. -/
theorem tellTransition_newestTick (relay : Relay) (current : CurrentState)
    (transition : Transition) (delay : Span) :
    (relay.tellTransition current transition delay).1.newestTick =
      transition.scoreboardTickChanged.getD relay.newestTick := by
  obtain ⟨scoreboardTickChanged, finishedAt⟩ := transition
  cases finishedAt <;> cases scoreboardTickChanged <;> rfl

/-- A response to a poll brings its scoreboard tick, which goes to the channel if it is another. -/
theorem absorbState_ticks (relay : Relay) (response : StateResponse) (now : Int) (jitter : Float) :
    let after := (relay.absorbState response now jitter).1
    after.scoreboardTick = response.state.scoreboardTick ∧
      (after.newestTick = relay.newestTick ∨ after.newestTick = response.state.scoreboardTick) := by
  -- The new state is kept in any case, and the channel is written last.
  obtain ⟨bus, hub, signals, absorbed⟩ := relay.absorbState_eq response now jitter
  refine ⟨by rw [absorbed]; rfl, ?_⟩
  rcases relay.absorbState_cases response now jitter with ⟨_, broken⟩ | ⟨delay, _, whole⟩
  · -- A poll that breaks off writes nothing.
    rw [broken]
    exact .inl rfl
  · have written : (relay.absorbState response now jitter).1.newestTick =
        (relay.live.transitionTo response.state).scoreboardTickChanged.getD relay.newestTick := by
      rw [whole]
      exact tellTransition_newestTick _ _ _ _
    rw [written]
    cases changed : (relay.live.transitionTo response.state).scoreboardTickChanged with
    | none => exact .inl rfl
    | some tick => exact .inr (Option.ite_some_none_eq_some.mp changed).2.symm

/-- A response to a poll brings no round, and starts no task. -/
theorem absorbState_follow (relay : Relay) (quiet : relay.signals = []) (response : StateResponse)
    (now : Int) (jitter : Float) :
    let after := (relay.absorbState response now jitter).1
    after.rounds = relay.rounds ∧ after.startedStages = [] := by
  obtain ⟨bus, hub, signals, absorbed⟩ := relay.absorbState_eq response now jitter
  refine ⟨by rw [absorbed], ?_⟩
  have told := (relay.tells_absorbState response now jitter).signals
  rw [quiet, List.nil_append] at told
  -- The end of the game and another scoreboard are news, and no tasks.
  rw [startedStages, told, List.map_eq_nil_iff, List.filterMap_eq_nil_iff]
  intro signal member
  split at member
  · exact Transition.task?_of_mem_signals member
  · cases member

/-- A poll that came to nothing changes neither ticks nor rounds. -/
theorem missState_follow (relay : Relay) (quiet : relay.signals = []) :
    relay.missState.rounds = relay.rounds ∧ relay.missState.scoreboardTick = relay.scoreboardTick ∧
      relay.missState.newestTick = relay.newestTick ∧ relay.missState.startedStages = [] := by
  -- At most the dashboards are told.
  unfold missState updateDegraded
  cases relay.degraded <;>
    simp [broadcast, signal, newestTick, scoreboardTick, startedStages, Signal.task?, quiet]

end Relay

/-- A turn of the poller that leaves ticks and rounds alone. -/
theorem Turn.ByPoller.of_same {turn : Turn} {stage : Stage} (unpolled : turn.polled? = none)
    (unlooked : turn.check? = none) (after : turn.after = turn.before)
    (quiet : turn.before.signals = []) (next : turn.next = .wait stage) (polls : stage.Polls) :
    turn.ByPoller where
  -- A turn that changes nothing advances nothing.
  next other waits := by
    cases next.symm.trans waits
    exact polls
  rounds := congrArg Relay.rounds after
  advance := .of_same unpolled unlooked after quiet

/-- The end of a poll of the poller leads to a rest, if it leads anywhere. -/
theorem Relay.afterPoll_polls {relay : Relay} {delay : Option Span} {now : Nat} {stage : Stage}
    (waits : (relay.afterPoll true delay now).2 = .wait stage) : stage.Polls := by
  -- Without a delay the poller has broken off.
  cases delay with
  | none => cases waits
  | some span =>
    cases waits
    trivial

/-- Each turn of a task that polls is one of the poller. -/
theorem Turn.byPoller {backend : Backend} {turn : Turn} {stage : Stage}
    (taken : turn.occasion.stages = [stage]) (polls : stage.Polls) (due : turn.IsDue backend)
    (quiet : turn.before.signals = []) : turn.ByPoller := by
  obtain ⟨now, jitter, occasion, before⟩ := turn
  unfold Stage.Polls at polls
  -- The poller stands at one of four stages, and only one of them waits for a reply.
  cases occasion with
  | call call => cases taken
  | ready waiting =>
    cases taken
    split at polls
    · exact .of_same rfl rfl rfl quiet rfl trivial
    · -- A reply does not come by itself.
      cases due
    · exact .of_same rfl rfl rfl quiet rfl trivial
    · rename_i response
      obtain ⟨rounds, started⟩ := before.absorbState_follow quiet response now.unix jitter
      obtain ⟨scoreboard, newest⟩ := before.absorbState_ticks response now.unix jitter
      have after : Turn.after ⟨now, jitter, .ready (.entering 1 (.absorbState true response)), before⟩ =
          (before.absorbState response now.unix jitter).1 := Relay.afterPoll_relay _ _ _ _
      rw [← scoreboard] at newest
      exact ⟨fun _ => Relay.afterPoll_polls, after ▸ rounds,
        .of_rounds rfl (after ▸ rounds) (after ▸ scoreboard) (after ▸ newest) (after ▸ started)⟩
    · exact polls.elim
  | reply waiting reply =>
    cases taken
    obtain ⟨endpoint, waits, answered⟩ := due
    split at polls
    · cases waits
    · cases response : reply.stateResponse with
      | ok state =>
        have result : before.continuePoll true now.elapsed reply.stateResponse =
            before.enter (.absorbState true state) := by rw [response]; rfl
        exact .of_same rfl rfl (congrArg Prod.fst result) quiet (congrArg Prod.snd result) trivial
      | error problem =>
        obtain ⟨rounds, scoreboard, newest, started⟩ := before.missState_follow quiet
        have result : before.continuePoll true now.elapsed reply.stateResponse =
            before.missState.afterPoll true (some failedPollDelay) now.elapsed := by
          rw [response]
          rfl
        have after : Turn.after ⟨now, jitter, .reply (.polling true) reply, before⟩ =
            before.missState := congrArg Prod.fst result
        refine ⟨fun stage waits => ?_, after ▸ rounds, .of_rounds rfl (after ▸ rounds)
          (after ▸ scoreboard) (after ▸ .inl newest) (after ▸ started)⟩
        exact Relay.afterPoll_polls ((congrArg Prod.snd result).symm.trans waits)
    · cases waits
    · cases waits
    · exact polls.elim

namespace Relay

/-- A round that is settled moves no tick and starts no task. -/
theorem settleRound_follow (relay : Relay) (quiet : relay.signals = []) (tick : Tick)
    (round : Round) :
    let after := relay.settleRound tick round
    after.scoreboardTick = relay.scoreboardTick ∧ after.newestTick = relay.newestTick ∧
      after.startedStages = [] := by
  obtain ⟨rounds, histories, events, settled⟩ := relay.settleRound_eq tick round
  dsimp only
  rw [settled]
  refine ⟨rfl, congrArg Watch.value (EventBus.newestTick_foldl_emit events relay.bus), ?_⟩
  -- The signal of an event is no start.
  have none : Signal.task? ∘ Signal.event = fun _ => none := rfl
  rw [startedStages, quiet, List.nil_append, List.filterMap_map, none, List.filterMap_none]
  rfl

/-- The follower looks at the newest tick, and then waits for another or asks for its round. -/
theorem followerLook_follows {relay : Relay} (level : relay.Level)
    (announced : ∀ tick snapshot, relay.rounds.get? tick = some snapshot →
      tick ≤ relay.newestTick) :
    ∃ stage, relay.followerLook = (relay, .wait stage) ∧ stage.Follows relay := by
  unfold followerLook
  by_cases unheard : relay.newestTick < 0
  · exact ⟨.watching relay.bus.newestTick.version, by simp only [if_pos unheard], trivial⟩
  · simp only [if_neg unheard]
    rcases relay.askRanking_cases (.follow relay.bus.newestTick.version) relay.newestTick with
      ⟨negative, _⟩ | ⟨counted, snapshot, kept, asked⟩ | ⟨counted, missing, asked⟩
    · exact absurd negative unheard
    · exact ⟨_, asked, counted, level counted, kept⟩
    · refine ⟨_, asked, counted, Int64.le_refl _, fun other snapshot held => ?_⟩
      -- The round of the newest tick is missing, so every other one is of an earlier tick.
      have before := announced other snapshot held
      have different : other ≠ relay.newestTick := by
        intro same
        rw [same, missing] at held
        cases held
      grind

/-- A follower whose request failed tries again, or gives the tick up and waits for another. -/
theorem continueRanking_follows {relay : Relay} {tick : Tick} (wants : relay.Wants tick)
    (seen retry now : Nat) (problem : ApiError) :
    ∃ stage, relay.continueRanking (.follow seen) tick retry now (.error problem) =
      (relay, .wait stage) ∧ stage.Follows relay := by
  -- A failure is followed by a pause, or is the last one allowed.
  rcases relay.continueRanking_cases (.follow seen) tick retry now (.error problem) with
    ⟨round, served, _⟩ | ⟨again, deadline, paused⟩ | ⟨final, given⟩
  · cases served
  · exact ⟨_, paused, wants⟩
  · exact ⟨_, given, trivial⟩

end Relay

/-- A turn of the follower that leaves ticks and rounds alone. -/
theorem Turn.ByFollower.of_same {turn : Turn} {stage : Stage} (unpolled : turn.polled? = none)
    (unlooked : turn.check? = none) (after : turn.after = turn.before)
    (quiet : turn.before.signals = []) (next : turn.next = .wait stage)
    (follows : stage.Follows turn.before) : turn.ByFollower :=
  ⟨⟨stage, next, after.symm ▸ follows⟩, unpolled, .of_same unpolled unlooked after quiet⟩

/-- The follower that looks at a round it has goes back to waiting for another newest tick. -/
theorem Turn.ByFollower.of_look {turn : Turn} {seen : Nat} {tick : Tick} {snapshot : Snapshot}
    (occasion : turn.occasion = .ready (.entering 1 (.settleRound (.follow seen) tick snapshot)))
    (quiet : turn.before.signals = []) (holds : turn.before.Holds tick snapshot) :
    turn.ByFollower := by
  -- The look settles a round that is held, and ends with waiting.
  have polled : turn.polled? = none := by simp [Turn.polled?, occasion]
  have result : turn.result =
      (turn.before.settleRound tick snapshot.round, .wait (.watching seen)) := by
    rw [Turn.result, occasion]
    rfl
  have after : turn.after = turn.before.settleRound tick snapshot.round := congrArg Prod.fst result
  obtain ⟨scoreboard, newest, started⟩ :=
    turn.before.settleRound_follow quiet tick snapshot.round
  have same : ∀ asked, turn.after.rounds.get? asked = turn.before.rounds.get? asked := by
    intro asked
    rw [after]
    exact turn.before.settleRound_get? tick asked snapshot.round
  refine ⟨⟨_, congrArg Prod.snd result, trivial⟩, polled, ?_, ?_, ?_, ?_, ?_, ?_⟩
  · -- The only look of this turn is at the round that is held.
    intro asked looked check
    have checked : turn.check? = some (tick, snapshot) := by
      simp [Turn.check?, occasion, Stage.check?]
    cases checked.symm.trans check
    exact ⟨holds, polled⟩
  · exact fun asked held kept => (same asked).trans kept
  · exact fun asked held kept => .inl ((same asked).symm.trans kept)
  · rw [polled, after]
    exact scoreboard
  · exact .inl (after ▸ newest)
  · rw [after]
    exact started

/-- The follower keeps the round it was after, and is about to look at it. -/
theorem Turn.ByFollower.of_store {turn : Turn} {seen retry : Nat} {tick : Tick} {reply : Reply}
    {round : Round}
    (occasion : turn.occasion = .reply (.fetchingRound (.follow seen) tick retry) reply)
    (quiet : turn.before.signals = []) (wants : turn.before.Wants tick) (level : turn.before.Level)
    (served : reply.document (.round tick) .round = .ok round) : turn.ByFollower := by
  have polled : turn.polled? = none := by simp [Turn.polled?, occasion]
  have result : turn.result = (turn.before.storeRound tick round).1.enter
      (.settleRound (.follow seen) tick (turn.before.storeRound tick round).2) := by
    simp only [Turn.result, occasion, Relay.resumeWithReply, Relay.continueRanking, served]
  have after : turn.after = (turn.before.storeRound tick round).1 := congrArg Prod.fst result
  have stored : ∀ asked, turn.after.rounds.get? asked =
      if tick = asked then some ⟨turn.before.fetchedRounds, round⟩
      else turn.before.rounds.get? asked := by
    intro asked
    rw [after]
    exact turn.before.storeRound_get? tick asked round
  -- A round that is stored changes the cache and nothing else.
  have ticks : turn.after.scoreboardTick = turn.before.scoreboardTick ∧
      turn.after.newestTick = turn.before.newestTick ∧
        turn.after.signals = turn.before.signals := by
    rw [after]
    exact ⟨rfl, rfl, rfl⟩
  refine ⟨⟨_, congrArg Prod.snd result, wants.counted, ?_, ?_⟩, polled, ?_, ?_, ?_, ?_, ?_, ?_⟩
  · -- The channel has announced the tick, and the scoreboard has reached what the channel has.
    rw [ticks.1]
    exact Int64.le_trans wants.announced (level (Int64.le_trans wants.counted wants.announced))
  · exact (stored tick).trans (if_pos rfl)
  · intro asked looked check
    simp [Turn.check?, occasion] at check
  · intro asked held kept
    -- The new round is of a later tick than all others, and takes the place of none.
    have before := wants.newer asked held kept
    rw [stored, if_neg (Int64.ne_of_lt before).symm]
    exact kept
  · intro asked held kept
    rw [stored] at kept
    split at kept
    · rename_i same
      exact .inr (same ▸ wants)
    · exact .inl kept
  · rw [polled]
    exact ticks.1
  · exact .inl ticks.2.1
  · rw [Relay.startedStages, ticks.2.2, quiet]
    rfl

/-- Each turn of a task that follows is one of the follower. -/
theorem Turn.byFollower {backend : Backend} {turn : Turn} {stage : Stage}
    (taken : turn.occasion.stages = [stage]) (follows : stage.Follows turn.before)
    (due : turn.IsDue backend) (quiet : turn.before.signals = []) (level : turn.before.Level)
    (announced : ∀ tick snapshot, turn.before.rounds.get? tick = some snapshot →
      tick ≤ turn.before.newestTick) : turn.ByFollower := by
  -- The follower stands at one of five stages, and only one of them waits for a reply.
  obtain ⟨next, look, after⟩ := Relay.followerLook_follows level announced
  obtain ⟨now, jitter, occasion, before⟩ := turn
  cases occasion with
  | call call => cases taken
  | ready waiting =>
    cases taken
    unfold Stage.Follows at follows
    split at follows
    · exact .of_same rfl rfl (congrArg Prod.fst look) quiet (congrArg Prod.snd look) after
    · exact .of_same rfl rfl (congrArg Prod.fst look) quiet (congrArg Prod.snd look) after
    · -- A reply does not come by itself.
      cases due
    · exact .of_same rfl rfl rfl quiet rfl follows
    · exact .of_look rfl quiet follows
    · exact follows.elim
  | reply waiting reply =>
    cases taken
    obtain ⟨endpoint, waits, answered⟩ := due
    unfold Stage.Follows at follows
    split at follows
    · cases waits
    · cases waits
    · rename_i seen tick retry
      cases served : reply.document (.round tick) .round with
      | ok round => exact .of_store rfl quiet follows level served
      | error problem =>
        obtain ⟨next, failed, after⟩ :=
          Relay.continueRanking_follows follows seen retry now.elapsed problem
        have result : Turn.result
            ⟨now, jitter, .reply (.fetchingRound (.follow seen) tick retry) reply, before⟩ =
              (before, .wait next) := by
          simp only [Turn.result, Relay.resumeWithReply, served]
          exact failed
        exact .of_same rfl rfl (congrArg Prod.fst result) quiet (congrArg Prod.snd result) after
    · cases waits
    · cases waits
    · exact follows.elim

/-- What holds of a world with nothing but the poller and the follower, after some turns. -/
structure Following (past : List Turn) (world : World) : Prop where
  /-- The poller may have broken off, and the follower is there always. -/
  tasks : ∃ pollers follower, world.tasks = pollers ++ [follower] ∧
    (∀ poller ∈ pollers, poller.Polls) ∧ follower.Follows world.relay
  level : world.relay.Level
  polled : world.relay.scoreboardTick = (polledTicks past).getLast?.getD (-1)
  announced : ∀ tick snapshot, world.relay.rounds.get? tick = some snapshot →
    0 ≤ tick ∧ tick ≤ world.relay.newestTick

/-- The last turn adds the tick that it polled, if it polled one. -/
@[simp] theorem polledTicks_snoc (past : List Turn) (turn : Turn) :
    polledTicks (past ++ [turn]) = polledTicks past ++ turn.polled?.toList := by
  cases polled : turn.polled? <;> simp [polledTicks, polled]

/-- A turn keeps the scoreboard tick or raises it by one, once polls have brought one. -/
def Turn.Rises (turn : Turn) : Prop :=
  0 ≤ turn.before.scoreboardTick →
    turn.after.scoreboardTick = turn.before.scoreboardTick ∨
      turn.after.scoreboardTick.toInt = turn.before.scoreboardTick.toInt + 1

/-- Where polls bring rising ticks, each turn keeps the scoreboard tick or raises it by one. -/
theorem Turn.Advance.rises {past : List Turn} {turn : Turn} (advance : turn.Advance)
    (polled : turn.before.scoreboardTick = (polledTicks past).getLast?.getD (-1))
    (rising : RisingByOne (polledTicks (past ++ [turn]))) : turn.Rises := by
  intro counted
  rw [advance.scoreboard]
  cases brought : turn.polled? with
  | none => exact .inl rfl
  | some tick =>
    -- The new tick follows on the last one that was polled, if there is one.
    rw [polledTicks_snoc, brought] at rising
    obtain ⟨_, _, joined⟩ := List.isChain_append.mp rising
    cases last : (polledTicks past).getLast? with
    | none =>
      -- Before the first poll the scoreboard tick is negative.
      rw [polled, last] at counted
      cases counted
    | some former =>
      rw [polled, last]
      exact joined former last tick rfl

/-- A turn does not lower a scoreboard tick that polls have brought. -/
theorem Turn.Rises.le {turn : Turn} (rises : turn.Rises)
    (counted : 0 ≤ turn.before.scoreboardTick) :
    turn.before.scoreboardTick ≤ turn.after.scoreboardTick := by
  -- A scoreboard tick stays or becomes the next one.
  rw [Int64.le_iff_toInt_le]
  rcases rises counted with same | next
  · exact Int.le_of_eq (congrArg Int64.toInt same.symm)
  · omega

/-- A tick that the scoreboard has reached stays so. -/
theorem Turn.Rises.reached {turn : Turn} (rises : turn.Rises) {tick : Tick} (counted : 0 ≤ tick)
    (reached : tick ≤ turn.before.scoreboardTick) : tick ≤ turn.after.scoreboardTick :=
  Int64.le_trans reached (rises.le (Int64.le_trans counted reached))

/-- The channel stays level with a scoreboard that rises. -/
theorem Turn.Advance.level {turn : Turn} (advance : turn.Advance) (rises : turn.Rises)
    (level : turn.before.Level) : turn.after.Level := by
  -- The channel keeps what the scoreboard has reached, or is written with what it reaches now.
  intro counted
  rcases advance.newest with same | written
  · rw [same] at counted ⊢
    exact rises.reached counted (level counted)
  · exact Int64.le_of_eq written

/-- A tick that the channel has announced stays so. -/
theorem Turn.Advance.announced {turn : Turn} (advance : turn.Advance) (rises : turn.Rises)
    (level : turn.before.Level) {tick : Tick} (counted : 0 ≤ tick)
    (announced : tick ≤ turn.before.newestTick) : tick ≤ turn.after.newestTick := by
  -- The channel keeps its tick, or is written with the scoreboard tick.
  rcases advance.newest with same | written
  · exact same ▸ announced
  · -- What the channel held was reached, and what it holds now is the scoreboard tick.
    have reached := Int64.le_trans announced (level (Int64.le_trans counted announced))
    exact written ▸ rises.reached counted reached

/-- The follower stays where it is while the rounds stay and no tick falls. -/
theorem Stage.Follows.mono {relay later : Relay} {stage : Stage} (follows : stage.Follows relay)
    (rounds : later.rounds = relay.rounds)
    (reached : ∀ tick, 0 ≤ tick → tick ≤ relay.scoreboardTick → tick ≤ later.scoreboardTick)
    (announced : ∀ tick, 0 ≤ tick → tick ≤ relay.newestTick → tick ≤ later.newestTick) :
    stage.Follows later := by
  have wants : ∀ tick, relay.Wants tick → later.Wants tick := fun tick wants =>
    ⟨wants.counted, announced tick wants.counted wants.announced,
      by rw [rounds]; exact wants.newer⟩
  -- Each stage of the follower asks for what it asked for before.
  unfold Stage.Follows at follows ⊢
  split at follows
  · trivial
  · trivial
  · exact wants _ follows
  · exact wants _ follows
  · exact ⟨follows.counted, reached _ follows.counted follows.reached, rounds ▸ follows.kept⟩
  · exact follows.elim

/-- A turn that nobody called for takes up a stage. -/
theorem Turn.exists_stage {turn : Turn} (uncalled : ∀ call, turn.occasion ≠ .call call) :
    ∃ stage, turn.occasion.stages = [stage] := by
  -- Of the three occasions, the two others come to a task at a stage.
  cases occasion : turn.occasion with
  | call call => exact absurd occasion (uncalled call)
  | ready stage => exact ⟨stage, rfl⟩
  | reply stage reply => exact ⟨stage, rfl⟩

/-- The poller, unless it has broken off, and behind it the follower. -/
def Relay.Manned (relay : Relay) (tasks : List Stage) : Prop :=
  ∃ pollers follower, tasks = pollers ++ [follower] ∧ (∀ poller ∈ pollers, poller.Polls) ∧
    follower.Follows relay

/-- Behind a turn of the follower, the poller stands in front of it as before. -/
theorem Turn.ByFollower.manned {turn : Turn} {pollers : List Stage} (byFollower : turn.ByFollower)
    (polls : ∀ poller ∈ pollers, poller.Polls) :
    turn.after.Manned (pollers ++ turn.next.stages ++ turn.after.startedStages) := by
  -- The follower moves on at its place, and starts no task.
  obtain ⟨follower, next, follows⟩ := byFollower.next
  refine ⟨pollers, follower, ?_, polls, follows⟩
  rw [next, byFollower.advance.started]
  simp [Next.stages]

/-- Behind a turn of the poller, the follower still stands at the end. -/
theorem Turn.ByPoller.manned {turn : Turn} {left front : List Stage} {follower : Stage}
    (byPoller : turn.ByPoller) (polls : ∀ poller ∈ left ++ front, poller.Polls)
    (follows : follower.Follows turn.before) (level : turn.before.Level) (rises : turn.Rises) :
    turn.after.Manned
      (left ++ turn.next.stages ++ (front ++ [follower]) ++ turn.after.startedStages) := by
  -- The tasks around the poller stay, and what the follower relies on does not fall.
  refine ⟨left ++ turn.next.stages ++ front, follower, ?_, fun poller member => ?_,
    follows.mono byPoller.rounds (fun _ => rises.reached)
      fun _ => byPoller.advance.announced rises level⟩
  · rw [byPoller.advance.started]
    simp
  · -- The poller goes on, unless it has broken off.
    simp only [List.mem_append] at member
    rcases member with (inLeft | moved) | inFront
    · exact polls poller (List.mem_append_left _ inLeft)
    · refine byPoller.next poller ?_
      cases next : turn.next with
      | wait other =>
        rw [next] at moved
        rw [List.mem_singleton.mp moved]
      | done outcome =>
        rw [next] at moved
        cases moved
    · exact polls poller (List.mem_append_right _ inFront)

/-- A turn from a world with the poller and the follower is one of theirs, and keeps them there. -/
theorem Following.step {backend : Backend} {past : List Turn} {world later : World} {turn : Turn}
    (following : Following past world) (step : world.Step backend turn later)
    (uncalled : ∀ call, turn.occasion ≠ .call call) (quiet : world.relay.signals = [])
    (rising : RisingByOne (polledTicks (past ++ [turn]))) :
    Following (past ++ [turn]) later ∧ turn.Advance ∧ turn.Rises := by
  obtain ⟨⟨pollers, follower, tasks, polls, follows⟩, level, polled, announced⟩ := following
  rw [← step.before] at follows level polled announced quiet
  obtain ⟨stage, taken⟩ := Turn.exists_stage uncalled
  obtain ⟨left, right, before, after⟩ := step.tasks
  rw [tasks, taken] at before
  -- Whichever task takes its turn, the turn advances and the tasks are of the same kinds.
  have goesOn : turn.Advance ∧ (turn.Rises → turn.after.Manned later.tasks) := by
    rcases List.eq_nil_or_concat right with rfl | ⟨front, last, rfl⟩
    · -- Nothing stands behind the task, so it is the follower.
      obtain ⟨rfl, same⟩ := List.append_inj' (before.trans (List.append_nil _)) rfl
      cases same
      have byFollower := Turn.byFollower taken follows step.due quiet level
        fun tick snapshot kept => (announced tick snapshot kept).2
      refine ⟨byFollower.advance, fun _ => ?_⟩
      rw [after, List.append_nil]
      exact byFollower.manned polls
    · -- The follower stands behind the task, so it is the poller.
      rw [List.concat_eq_append, ← List.append_assoc] at before
      obtain ⟨rfl, same⟩ := List.append_inj' before rfl
      cases same
      have byPoller := Turn.byPoller taken (polls stage (by simp)) step.due quiet
      refine ⟨byPoller.advance, fun rises => ?_⟩
      rw [after, List.concat_eq_append]
      refine byPoller.manned (fun poller member => polls poller ?_) follows level rises
      rcases List.mem_append.mp member with inLeft | inFront <;> simp [*]
  obtain ⟨advance, tasks⟩ := goesOn
  have rises := advance.rises polled rising
  refine ⟨⟨?_, ?_, ?_, ?_⟩, advance, rises⟩
  · obtain ⟨pollers, follower, tasks, polls, follows⟩ := tasks rises
    rw [step.relay]
    exact ⟨pollers, follower, tasks, polls, follows.mono rfl (fun _ _ => id) fun _ _ => id⟩
  · rw [step.relay]
    exact advance.level rises level
  · have scoreboard : later.relay.scoreboardTick = turn.after.scoreboardTick := by
      rw [step.relay]
      rfl
    rw [scoreboard, advance.scoreboard, polledTicks_snoc, polled]
    -- The scoreboard tick is the one just polled, or else the last one before.
    cases turn.polled? <;> simp
  · intro tick snapshot kept
    rw [step.relay] at kept ⊢
    rcases advance.adds tick snapshot kept with held | wants
    · obtain ⟨counted, before⟩ := announced tick snapshot held
      exact ⟨counted, advance.announced rises level counted before⟩
    · exact ⟨wants.counted, advance.announced rises level wants.counted wants.announced⟩

end Scoreboard
