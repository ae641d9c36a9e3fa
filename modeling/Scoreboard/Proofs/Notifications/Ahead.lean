import Scoreboard.Proofs.Dashboards.OverlayStream
import Scoreboard.Proofs.Ranking.Following

/-! What is ahead of a task that celebrates: each end of a game is good for one podium at most. -/

namespace Scoreboard

/-- The tick of the end that a turn hands on. -/
def Turn.ended? (turn : Turn) : Option Tick :=
  match turn.occasion with
  | .call (.event (.final tick)) | .ready (.holding _ _ (.final tick) _) => some tick
  | _ => none

/-- The tick and the podium that a turn tells the dashboards. -/
def Turn.named? (turn : Turn) : Option (Tick × List PodiumEntry) :=
  match turn.occasion with
  | .ready (.entering parts (.nameWinners tick round)) =>
    if 1 < parts then none else some (tick, podium round turn.before.teams)
  | _ => none

/-- The podium that a turn stores in the overlay. -/
def Turn.kept? (turn : Turn) : Option (List PodiumEntry) :=
  match turn.occasion with
  | .ready (.entering parts (.keepPodium winners)) => if 1 < parts then none else some winners
  | _ => none

/-- An animation starts in the turn, for every one has a generation of its own. -/
def Turn.playsPyro (turn : Turn) : Bool :=
  turn.after.overlay.pyroGeneration ≠ turn.before.overlay.pyroGeneration

/-- What may still come of a celebration: a podium and then the animation, or that alone. -/
inductive Ahead
  | podium (tick : Tick)
  | animation
deriving DecidableEq

/-- What is ahead of a task at its stage. -/
def Stage.ahead? : Stage → Option Ahead
  | .starting (.gameOver tick) | .awaitingTick tick | .fetchingRound .gameOver tick _
  | .pausingRound .gameOver tick _ _ | .entering _ (.settleRound .gameOver tick _)
  | .entering _ (.nameWinners tick _) => some (.podium tick)
  | .entering _ (.keepPodium _) | .entering _ (.weighPyro _) | .entering _ (.playPyro _) =>
    some .animation
  | _ => none

/-- What is ahead of a task behind its turn. -/
def Next.ahead? : Next → Option Ahead
  | .wait stage => stage.ahead?
  | .done _ => none

/-- What is ahead of the task that an occasion takes. -/
def Occasion.ahead? : Occasion → Option Ahead
  | .call _ => none
  | .ready stage | .reply stage _ => stage.ahead?

/-- A turn brings its task no farther than the podium, or the animation, that was ahead of it. -/
inductive Turn.Progress (turn : Turn) : Prop
  | on (ahead : turn.next.ahead? = none ∨ turn.next.ahead? = turn.occasion.ahead?)
      (unplayed : turn.playsPyro = false)
  | names (tick : Tick) (winners : List PodiumEntry) (named : turn.named? = some (tick, winners))
      (occasion : turn.occasion.ahead? = some (.podium tick))
      (next : turn.next.ahead? = some .animation) (unplayed : turn.playsPyro = false)
  | plays (parts : Nat) (winners : List PodiumEntry)
      (occasion : turn.occasion = .ready (.entering parts (.playPyro winners)))
      (next : turn.next.ahead? = none)

/-- Nothing is ahead at a plain stage. -/
theorem Next.Plain.ahead?_eq_none {next : Next} (plain : next.Plain) : next.ahead? = none := by
  -- A stage with something ahead is one that plain stages leave out.
  cases next with
  | done outcome => rfl
  | wait stage =>
    cases stage with
    | starting task => cases plain
    | awaitingTick tick => cases plain
    | fetchingRound use tick retry => cases plain
    | pausingRound use tick retry deadline => cases plain
    | entering parts step =>
      cases step with
      | settleRound use tick snapshot => cases plain
      | nameWinners tick round => cases plain
      | keepPodium winners => cases plain
      | weighPyro winners => cases plain
      | playPyro winners => cases plain
      | _ => rfl
    | _ => rfl

/-- What becomes of a round that is not to be had has nothing ahead. -/
theorem Relay.finishRanking_error_ahead? (relay : Relay) (use : RankingUse) (tick : Tick)
    (problem : ServiceError) : (relay.finishRanking use tick (.error problem)).2.ahead? = none := by
  rcases relay.finishRanking_next use tick (.error problem) with plain | ⟨snapshot, got, _⟩
  · exact plain.ahead?_eq_none
  · cases got

/-- A task that asks for a round has its podium ahead if it celebrates, and nothing otherwise. -/
theorem Relay.askRanking_ahead? (relay : Relay) (use : RankingUse) (tick : Tick) :
    (relay.askRanking use tick).2.ahead? = none ∨
      use = .gameOver ∧ (relay.askRanking use tick).2.ahead? = some (.podium tick) := by
  rcases relay.askRanking_cases use tick with ⟨_, asked⟩ | ⟨_, _, _, asked⟩ | ⟨_, _, asked⟩
  · rw [asked]
    exact .inl (relay.finishRanking_error_ahead? use tick _)
  -- The round is in the cache or has to be fetched, and the use goes with it.
  · rw [asked]
    cases use with
    | gameOver => exact .inr ⟨rfl, rfl⟩
    | _ => exact .inl rfl
  · rw [asked]
    cases use with
    | gameOver => exact .inr ⟨rfl, rfl⟩
    | _ => exact .inl rfl

namespace Turn

variable {turn : Turn}

/-- A turn that does not bring its task to the podium does not tell of one. -/
theorem named?_eq_none
    (ahead : turn.next.ahead? = none ∨ turn.next.ahead? = turn.occasion.ahead?) :
    turn.named? = none := by
  -- The turn that tells is the one in front of the podium, and it goes on to store it.
  unfold named?
  split
  · rename_i parts tick round occasion
    split
    · rfl
    · -- The turn would have brought its task in front of the podium.
      rename_i last
      have result : turn.result = turn.before.nameWinners tick round := by
        simp only [Turn.result, occasion, Relay.resume, if_neg last, Relay.perform]
      have next : turn.next.ahead? = some .animation :=
        congrArg (fun result => result.2.ahead?) result
      rw [next, occasion] at ahead
      rcases ahead with none | same
      · cases none
      · cases same
  · rfl

/-- A turn that changes nothing shared leaves its task with nothing more ahead than before. -/
theorem Goes.ahead (goes : turn.Goes)
    (uncalled : ∀ tick, turn.occasion ≠ .call (.start (.gameOver tick))) :
    turn.next.ahead? = none ∨ turn.next.ahead? = turn.occasion.ahead? := by
  cases goes with
  | on plain => exact .inl plain.ahead?_eq_none
  | spawned task occasion next =>
    rw [next]
    cases task with
    | gameOver tick => exact absurd occasion (uncalled tick)
    | _ => exact .inl rfl
  | queued parts step occasion next =>
    -- How many parts there are is not part of what is ahead.
    rw [next, occasion]
    right
    cases step with
    | settleRound use tick snapshot => cases use <;> rfl
    | _ => rfl
  | awaits tick occasion next =>
    rw [next, occasion]
    exact .inr rfl
  | asks use tick asks next =>
    rw [next]
    rcases turn.before.askRanking_ahead? use tick with none | ⟨rfl, ahead⟩
    · exact .inl none
    · -- Only a celebration asks in this way, for the tick that it has waited for.
      generalize occasion_eq : turn.occasion = occasion at asks
      cases asks with
      | gameOver tick reached => exact .inr ahead
  | retries use tick retry deadline occasion next =>
    rw [next, occasion]
    right
    cases use <;> rfl
  | pauses use tick retry again deadline reply occasion next =>
    rw [next, occasion]
    right
    cases use <;> rfl
  | givesUp use tick retry reply problem occasion next =>
    rw [next]
    exact .inl (turn.before.finishRanking_error_ahead? use tick problem)
  | polls again reply response occasion answered next =>
    rw [next]
    exact .inl rfl
  | weighs parts winners occasion next =>
    rw [next, occasion]
    split
    · exact .inr rfl
    · exact .inl rfl

/-- A turn that leaves the generation of the animation alone starts none. -/
theorem playsPyro_eq_false
    (same : turn.after.overlay.pyroGeneration = turn.before.overlay.pyroGeneration) :
    turn.playsPyro = false := by
  simp [playsPyro, same]

/-- An overlay that is adjusted goes on with the animation that it has. -/
theorem unplayed_of_overlayChanged {result : Overlay × Bool}
    (adjusts : turn.before.overlay.Adjusts result)
    (after : turn.after = (turn.before.overlayChanged result).1) : turn.playsPyro = false := by
  apply playsPyro_eq_false
  rw [after, Relay.overlayChanged_overlay, adjusts.pyroGeneration]

/-- Every turn makes such progress, if nobody starts a celebration by hand. -/
theorem Deed.progress (deed : turn.Deed)
    (uncalled : ∀ tick, turn.occasion ≠ .call (.start (.gameOver tick))) : turn.Progress := by
  -- One deed tells the podium, one may start the animation, and all others only go on.
  cases deed with
  | goes goes after => exact .on (goes.ahead uncalled) (playsPyro_eq_false (by rw [after]))
  | stores use tick retry reply round occasion served after next =>
    refine .on (.inr ?_) (playsPyro_eq_false (by rw [after]; rfl))
    rw [next, occasion]
    cases use <;> rfl
  | settles parts use tick snapshot occasion last after next =>
    obtain ⟨rounds, histories, events, settled⟩ := turn.before.settleRound_eq tick snapshot.round
    refine .on ?_ (playsPyro_eq_false (by rw [after, settled]))
    -- A celebration goes on to the podium with its round, and any other use of it is plain.
    rw [next, occasion]
    cases use with
    | gameOver => exact .inr rfl
    | _ => exact .inl rfl
  | misses plain after =>
    obtain ⟨hub, signals, missed⟩ := turn.before.missState_eq
    exact .on (.inl plain.ahead?_eq_none) (playsPyro_eq_false (by rw [after, missed]))
  | absorbs parts again response occasion plain after =>
    obtain ⟨bus, hub, signals, absorbed⟩ :=
      turn.before.absorbState_eq response turn.now.unix turn.jitter
    exact .on (.inl plain.ahead?_eq_none) (playsPyro_eq_false (by rw [after, absorbed]))
  | dismisses plain after =>
    exact .on (.inl plain.ahead?_eq_none)
      (unplayed_of_overlayChanged (Overlay.adjusts_dismissFirstBlood _) after)
  | runsOut timer plain after =>
    rw [Relay.runOut_eq] at after
    exact .on (.inl plain.ahead?_eq_none)
      (unplayed_of_overlayChanged (Overlay.adjusts_ranOut _ timer) after)
  | names parts tick round occasion last after next =>
    refine .names tick (podium round turn.before.teams) ?_ (by rw [occasion]; rfl)
      (by rw [next]; rfl) (playsPyro_eq_false (by rw [after]; rfl))
    simp only [named?, occasion, if_neg last]
  | keeps parts winners occasion last after next =>
    refine .on (.inr ?_) (playsPyro_eq_false (by rw [after]; rfl))
    rw [next, occasion]
    rfl
  | plays parts winners occasion last after next =>
    exact .plays parts winners occasion (by rw [next]; rfl)
  -- All other turns leave their tasks at plain stages, and the overlay without an animation.
  | _ =>
    refine .on (.inl (Next.Plain.ahead?_eq_none ‹turn.next.Plain›)) (playsPyro_eq_false ?_)
    exact congrArg (fun relay => relay.overlay.pyroGeneration) ‹turn.after = _›

/-- The tasks that a turn from a quiet relay starts are among what it tells. -/
theorem startedStages_of_tells {told : List Signal} (tells : turn.before.Tells turn.after told)
    (quiet : turn.before.signals = []) :
    turn.after.startedStages = (told.filterMap Signal.task?).map .starting := by
  rw [Relay.startedStages, tells.signals, quiet, List.nil_append]

/-- A turn starts timers, or the celebration of the end of a game that it hands on. -/
theorem Deed.started_cases (deed : turn.Deed) (quiet : turn.before.signals = []) :
    (∀ stage ∈ turn.after.startedStages, ∃ timer, stage = .starting (.timer timer)) ∨
      ∃ tick, turn.ended? = some tick ∧
        turn.after.startedStages = [.starting (.gameOver tick)] := by
  -- What a turn starts is among its signals, so it is enough to look at what it tells.
  have of_tells : ∀ {told : List Signal}, turn.before.Tells turn.after told →
      (∀ task ∈ told.filterMap Signal.task?, ∃ timer, task = .timer timer) →
      ∀ stage ∈ turn.after.startedStages, ∃ timer, stage = .starting (.timer timer) := by
    intro told tells timers stage member
    rw [startedStages_of_tells tells quiet] at member
    obtain ⟨task, started, rfl⟩ := List.mem_map.mp member
    obtain ⟨timer, rfl⟩ := timers task started
    exact ⟨timer, rfl⟩
  cases deed with
  | final use tick hands plain after =>
    have tells : turn.before.Tells turn.after [.start (.gameOver tick)] :=
      after ▸ Relay.tells_start _
    refine .inr ⟨tick, ?_, by rw [startedStages_of_tells tells quiet]; rfl⟩
    generalize occasion_eq : turn.occasion = occasion at hands
    cases hands with
    | asked event => simp only [ended?, occasion_eq]
    | held limiter position event deadline => simp only [ended?, occasion_eq]
  | settles parts use tick snapshot occasion last after next =>
    obtain ⟨_, _, started⟩ := turn.before.settleRound_follow quiet tick snapshot.round
    rw [after, started]
    exact .inl fun _ none => nomatch none
  | absorbs parts again response occasion plain after =>
    obtain ⟨_, started⟩ :=
      turn.before.absorbState_follow quiet response turn.now.unix turn.jitter
    rw [after, started]
    exact .inl fun _ none => nomatch none
  | misses plain after =>
    obtain ⟨_, _, _, started⟩ := turn.before.missState_follow quiet
    rw [after, started]
    exact .inl fun _ none => nomatch none
  | shows service team plain after =>
    exact .inl (of_tells (after ▸ turn.before.tells_showBanner service team)
      (by simp [Signal.task?]))
  | plays parts winners occasion last after next =>
    refine .inl (of_tells (after ▸ turn.before.tells_playPyro) fun task member => ?_)
    -- Both tasks are timers.
    simp only [List.filterMap_cons, Signal.task?, List.filterMap_nil, List.mem_cons,
      List.not_mem_nil, or_false] at member
    rcases member with rfl | rfl <;> exact ⟨_, rfl⟩
  | dismisses plain after =>
    refine .inl (of_tells (after ▸ turn.before.tells_overlayChanged _) ?_)
    split <;> simp [Signal.task?]
  | runsOut timer plain after =>
    rw [Relay.runOut_eq] at after
    refine .inl (of_tells (after ▸ turn.before.tells_overlayChanged _) ?_)
    split <;> simp [Signal.task?]
  -- All other turns tell of no task, if they tell of anything.
  | _ =>
    left
    intro stage member
    rw [Relay.startedStages, ‹turn.after = _›] at member
    simp [quiet, Relay.signal, Relay.broadcast, Relay.emit, Relay.storeRound,
      Relay.joinDashboard, Relay.updatePreferences, Signal.task?] at member

/-- A turn starts no celebration, or hands on the end of a game and starts that of its tick. -/
theorem Deed.starts (deed : turn.Deed) (quiet : turn.before.signals = []) :
    (∀ stage ∈ turn.after.startedStages, stage.ahead? = none) ∨
      ∃ tick, turn.ended? = some tick ∧
        turn.after.startedStages = [.starting (.gameOver tick)] := by
  refine (deed.started_cases quiet).imp_left fun timers stage member => ?_
  obtain ⟨timer, rfl⟩ := timers stage member
  rfl

/-- A turn that tells a podium is the one in front of it, and goes on to store that podium. -/
theorem of_named?_eq_some {tick : Tick} {winners : List PodiumEntry}
    (named : turn.named? = some (tick, winners)) :
    ∃ parts round, turn.occasion = .ready (.entering parts (.nameWinners tick round)) ∧
      winners = podium round turn.before.teams ∧
      turn.after = turn.before.broadcast (.gameOver tick winners) ∧
      turn.next = .wait (.entering 1 (.keepPodium winners)) := by
  -- Only the step that names the winners tells.
  unfold named? at named
  split at named
  · rename_i parts other round occasion
    split at named
    · cases named
    · rename_i last
      cases named
      have result : turn.result = turn.before.nameWinners tick round := by
        simp only [Turn.result, occasion, Relay.resume, if_neg last, Relay.perform]
      exact ⟨parts, round, occasion, rfl, congrArg Prod.fst result, congrArg Prod.snd result⟩
  · cases named

/-- A turn that stores a podium leaves it in the overlay, and changes nothing else. -/
theorem of_kept?_eq_some {winners : List PodiumEntry} (kept : turn.kept? = some winners) :
    ∃ parts, turn.occasion = .ready (.entering parts (.keepPodium winners)) ∧
      turn.after = { turn.before with overlay := turn.before.overlay.setPodium winners } ∧
      turn.after.overlay.podium = winners ∧
      turn.next = .wait (.entering 1 (.weighPyro winners)) := by
  -- Only the step that keeps the podium stores it.
  unfold kept? at kept
  split at kept
  · rename_i parts other occasion
    split at kept
    · cases kept
    · rename_i last
      cases kept
      have result : turn.result = turn.before.keepPodium winners := by
        simp only [Turn.result, occasion, Relay.resume, if_neg last, Relay.perform]
      have after : turn.after =
          { turn.before with overlay := turn.before.overlay.setPodium winners } :=
        congrArg Prod.fst result
      exact ⟨parts, occasion, after, by rw [after]; rfl, congrArg Prod.snd result⟩
  · cases kept

/-- Game over comes to the dashboards with the podium that a turn tells, and in no other way. -/
theorem Deed.broadcasts_gameOver (deed : turn.Deed) (quiet : turn.before.signals = []) :
    turn.broadcasts "game_over" =
      (turn.named?.map fun named => ServerEvent.gameOver named.1 named.2).toList := by
  cases named : turn.named? with
  | some told =>
    obtain ⟨_, _, _, _, after, _⟩ := of_named?_eq_some named
    have tells : turn.before.Tells turn.after [.broadcast (.gameOver told.1 told.2)] :=
      after ▸ Relay.tells_broadcast _
    rw [broadcasts_of_tells tells quiet]
    rfl
  | none =>
    rw [broadcasts, Option.map_none, Option.toList_none, List.filter_eq_nil_iff]
    intro event member
    obtain ⟨signal, told, brought⟩ := List.mem_filterMap.mp member
    cases signal with
    | broadcast other =>
      cases brought
      -- Of the events that a turn can bring, only one has that name.
      cases deed.announces quiet told with
      | gameOver parts tick round occasion last => simp [named?, occasion, last] at named
      | message text => simp [ServerEvent.info]
      | tick current => simp [ServerEvent.scoreboardTick, ServerEvent.ofDocument]
      | blood service team => simp [ServerEvent.firstBlood, ServerEvent.ofDocument]
      | preferences preferences => simp [ServerEvent.preferences, ServerEvent.ofDocument]
      | overlay => simp [ServerEvent.overlay, ServerEvent.ofDocument]
    | _ => cases brought

end Turn

/-- What is ahead at a stage is of a kind. -/
def Stage.awaits (kind : Ahead → Bool) (stage : Stage) : Bool :=
  stage.ahead?.any kind

section Accounts

variable {turn : Turn}

/-- A turn leaves one task that has something ahead, or none. -/
theorem Next.countP_awaits (next : Next) (kind : Ahead → Bool) :
    next.stages.countP (Stage.awaits kind) = (next.ahead?.any kind).toNat := by
  -- A turn ends its task, or leaves it in one stage.
  cases next with
  | done outcome => rfl
  | wait stage =>
    simp only [Next.stages, List.countP_singleton, Stage.awaits, Next.ahead?]
    by_cases awaited : stage.ahead?.any kind = true <;> simp [awaited]

/-- A turn comes from one task that has something ahead, or from none. -/
theorem Occasion.countP_awaits (occasion : Occasion) (kind : Ahead → Bool) :
    occasion.stages.countP (Stage.awaits kind) = (occasion.ahead?.any kind).toNat := by
  -- A call comes from no task, and the other occasions from one.
  cases occasion with
  | call call => rfl
  | ready stage => exact (Next.wait stage).countP_awaits kind
  | reply stage reply => exact (Next.wait stage).countP_awaits kind

/-- The podium of some ticks is ahead. -/
def Ahead.isPodium (ticks : Tick → Bool) : Ahead → Bool
  | .podium tick => ticks tick
  | .animation => false

/-- The turn tells the podium of one of some ticks. -/
def Turn.names (ticks : Tick → Bool) (turn : Turn) : Bool :=
  turn.named?.any fun named => ticks named.1

/-- A podium that a turn tells was ahead, and is so no longer. -/
theorem Turn.Progress.named_le (progress : turn.Progress) (ticks : Tick → Bool) :
    [turn].countP (Turn.names ticks) +
        turn.next.stages.countP (Stage.awaits (Ahead.isPodium ticks)) ≤
      turn.occasion.stages.countP (Stage.awaits (Ahead.isPodium ticks)) := by
  -- Both sides count one task, in front of the turn and behind it.
  rw [List.countP_singleton, Next.countP_awaits, Occasion.countP_awaits, Turn.names]
  cases progress with
  | on ahead unplayed =>
    rw [Turn.named?_eq_none ahead]
    rcases ahead with none | same
    · simp [none]
    · simp [same]
  | names tick winners named occasion next unplayed =>
    rw [named, occasion, next]
    by_cases wanted : ticks tick = true <;> simp [wanted, Ahead.isPodium]
  | plays parts winners occasion next =>
    rw [Turn.named?_eq_none (.inl next), next]
    simp

/-- An animation that a turn starts was ahead, and nothing is ahead any longer. -/
theorem Turn.Progress.played_le (progress : turn.Progress) :
    [turn].countP Turn.playsPyro + turn.next.stages.countP (Stage.awaits fun _ => true) ≤
      turn.occasion.stages.countP (Stage.awaits fun _ => true) := by
  -- The turn that plays has the animation ahead, and nothing behind it.
  rw [List.countP_singleton, Next.countP_awaits, Occasion.countP_awaits]
  cases progress with
  | on ahead unplayed =>
    rw [unplayed]
    rcases ahead with none | same
    · simp [none]
    · simp [same]
  | names tick winners named occasion next unplayed =>
    rw [unplayed, occasion, next]
    simp
  | plays parts winners occasion next =>
    have ahead : turn.occasion.ahead? = some .animation := by rw [occasion]; rfl
    rw [next, ahead]
    cases turn.playsPyro <;> simp

/-- A turn that starts a task with something ahead hands on the end of a game. -/
theorem Turn.Deed.started_le (deed : turn.Deed) (quiet : turn.before.signals = [])
    (kind : Ahead → Bool) : turn.after.startedStages.countP (Stage.awaits kind) ≤
      [turn].countP fun turn => turn.ended?.any fun tick => kind (.podium tick) := by
  -- Either nothing that counts is started, or the end of a game pays for its one celebration.
  rcases deed.starts quiet with none | ⟨tick, ended, started⟩
  · have worthless : turn.after.startedStages.countP (Stage.awaits kind) = 0 := by
      rw [List.countP_eq_zero]
      intro stage member
      simp [Stage.awaits, none stage member]
    omega
  · rw [started, List.countP_singleton, List.countP_singleton, ended]
    rfl

end Accounts

end Scoreboard
