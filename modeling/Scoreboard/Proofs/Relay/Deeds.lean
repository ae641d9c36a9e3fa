import Scoreboard.Proofs.Relay.Changes
import Scoreboard.Proofs.Schedule

/-! Deeds: everything that a turn can do to the relay, and where it can leave its task. -/

namespace Scoreboard

/-- A step that turns of several kinds lead to, and that says nothing about the turns before. -/
def Step.Plain : Step → Prop
  | .absorbState .. | .settleRound .. | .nameWinners .. | .keepPodium _ | .weighPyro _
  | .playPyro _ | .replaceState _ => False
  | _ => True

/-- A stage that turns of several kinds lead to, and that says nothing about the turns before. -/
def Stage.Plain : Stage → Prop
  | .starting _ | .fetchingRound .. | .pausingRound .. | .awaitingTick _ => False
  | .entering _ step => step.Plain
  | _ => True

/-- A turn leaves its task at a plain stage, or at its end. -/
def Next.Plain : Next → Prop
  | .wait stage => stage.Plain
  | .done _ => True

/-- Who asks for a round, what for, and what is known of its tick. -/
inductive Relay.Asks (relay : Relay) : Occasion → RankingUse → Tick → Prop
  | lookup (tick : Tick) : Asks relay (.call (.ranking tick)) .plain tick
  /-- The follower asks for the newest tick. -/
  | follower (stage : Stage) (counted : ¬ relay.newestTick < 0)
      (follows : stage = .starting .follower ∨ ∃ seen, stage = .watching seen) :
      Asks relay (.ready stage) (.follow relay.bus.newestTick.version) relay.newestTick
  /-- The end of a game asks for its tick once that is reached. -/
  | gameOver (tick : Tick) (reached : tick ≤ relay.newestTick) :
      Asks relay (.ready (.awaitingTick tick)) .gameOver tick
  /-- A request asks for a tick that is published. -/
  | request (parts : Nat) (request : Request) (tick : Tick)
      (published : tick ≤ relay.scoreboardTick) (last : ¬ 1 < parts) :
      Asks relay (.ready (.entering parts (.answer request (.ranking tick)))) .response tick

/-- Who hands a live event on: somebody outside, or the dispatcher that held it. -/
inductive Occasion.Hands : Occasion → EventUse → LiveEvent → Prop
  | asked (event : LiveEvent) : Hands (.call (.event event)) .plain event
  | held (limiter : Limiter) (position : Nat) (event : LiveEvent) (deadline : Nat) :
      Hands (.ready (.holding limiter position event deadline)) (.dispatch limiter position) event

/-- Who calls a live event out by hand: a request, and its answer for the end of the game. -/
inductive Occasion.Calls : Occasion → LiveEvent → Prop
  | firstBlood (occasion : Occasion) (service team : String) :
      Calls occasion (.firstBlood service team)
  | final (parts : Nat) (request : Request) (tick : Tick) :
      Calls (.ready (.entering parts (.answer request .triggerFinal))) (.final tick)

/-- A turn in which a task goes on and nothing that is shared changes. -/
inductive Turn.Goes (turn : Turn) : Prop
  | on (plain : turn.next.Plain)
  | spawned (task : NewTask) (occasion : turn.occasion = .call (.start task))
      (next : turn.next = .wait (.starting task))
  /-- One of several parts of the shared state was got hold of. -/
  | queued (parts : Nat) (step : Step) (occasion : turn.occasion = .ready (.entering parts step))
      (next : turn.next = .wait (.entering (parts - 1) step))
  | awaits (tick : Tick) (occasion : turn.occasion = .ready (.starting (.gameOver tick)))
      (next : turn.next = .wait (.awaitingTick tick))
  | asks (use : RankingUse) (tick : Tick) (asks : turn.before.Asks turn.occasion use tick)
      (next : turn.next = (turn.before.askRanking use tick).2)
  | retries (use : RankingUse) (tick : Tick) (retry deadline : Nat)
      (occasion : turn.occasion = .ready (.pausingRound use tick retry deadline))
      (next : turn.next = .wait (.fetchingRound use tick retry))
  | pauses (use : RankingUse) (tick : Tick) (retry again deadline : Nat) (reply : Reply)
      (occasion : turn.occasion = .reply (.fetchingRound use tick retry) reply)
      (next : turn.next = .wait (.pausingRound use tick again deadline))
  | givesUp (use : RankingUse) (tick : Tick) (retry : Nat) (reply : Reply) (problem : ServiceError)
      (occasion : turn.occasion = .reply (.fetchingRound use tick retry) reply)
      (next : turn.next = (turn.before.finishRanking use tick (.error problem)).2)
  | polls (again : Bool) (reply : Reply) (response : StateResponse)
      (occasion : turn.occasion = .reply (.polling again) reply)
      (answered : reply.stateResponse = .ok response)
      (next : turn.next = .wait (.entering 1 (.absorbState again response)))
  | weighs (parts : Nat) (winners : List PodiumEntry)
      (occasion : turn.occasion = .ready (.entering parts (.weighPyro winners)))
      (next : turn.next = if turn.before.preferences.showNotifications then
        .wait (.entering 1 (.playPyro winners)) else .done (.podium (.ok winners)))

/-- Everything that a turn can do. -/
inductive Turn.Deed (turn : Turn) : Prop
  | goes (goes : turn.Goes) (after : turn.after = turn.before)
  | stores (use : RankingUse) (tick : Tick) (retry : Nat) (reply : Reply) (round : Round)
      (occasion : turn.occasion = .reply (.fetchingRound use tick retry) reply)
      (served : reply.document (.round tick) .round = .ok round)
      (after : turn.after = (turn.before.storeRound tick round).1)
      (next : turn.next = .wait (.entering 1
        (.settleRound use tick (turn.before.storeRound tick round).2)))
  | settles (parts : Nat) (use : RankingUse) (tick : Tick) (snapshot : Snapshot)
      (occasion : turn.occasion = .ready (.entering parts (.settleRound use tick snapshot)))
      (last : ¬ 1 < parts) (after : turn.after = turn.before.settleRound tick snapshot.round)
      (next : turn.next = (turn.before.finishRanking use tick (.ok snapshot)).2)
  | files (use : HistoryUse) (team : TeamId) (retry : Nat) (reply : Reply) (history : TeamHistory)
      (occasion : turn.occasion = .reply (.fetchingHistory use team retry) reply)
      (served : reply.document (.teamHistory team) .teamHistory = .ok history)
      (plain : turn.next.Plain)
      (after : turn.after =
        { turn.before with histories := turn.before.histories.put team history.points })
  | learns (teams : TeamsDocument) (plain : turn.next.Plain)
      (after : turn.after = { turn.before with teams := teams }) (parts : Nat)
      (document : TeamsDocument)
      (occasion : turn.occasion = .ready (.entering parts (.storeTeams document)))
      (last : ¬ 1 < parts)
  | misses (plain : turn.next.Plain) (after : turn.after = turn.before.missState) (again : Bool)
      (reply : Reply) (problem : ApiError) (occasion : turn.occasion = .reply (.polling again) reply)
      (failed : reply.stateResponse = .error problem)
  | absorbs (parts : Nat) (again : Bool) (response : StateResponse)
      (occasion : turn.occasion = .ready (.entering parts (.absorbState again response)))
      (plain : turn.next.Plain)
      (after : turn.after = (turn.before.absorbState response turn.now.unix turn.jitter).1)
      (last : ¬ 1 < parts)
  | replaces (parts : Nat) (current : CurrentState) (live : LiveState)
      (occasion : turn.occasion = .ready (.entering parts (.replaceState current)))
      (plain : turn.next.Plain) (after : turn.after = { turn.before with live := live })
  | blood (use : EventUse) (service team : String)
      (hands : turn.occasion.Hands use (.firstBlood service team)) (plain : turn.next.Plain)
      (after : turn.after = turn.before.broadcast (.firstBlood service team))
  | final (use : EventUse) (tick : Tick) (hands : turn.occasion.Hands use (.final tick))
      (plain : turn.next.Plain) (after : turn.after = turn.before.start (.gameOver tick))
  | shows (service team : String) (plain : turn.next.Plain)
      (after : turn.after = turn.before.showBanner service team) (parts : Nat) (use : EventUse)
      (occasion : turn.occasion = .ready (.entering parts (.showBanner use service team)))
      (last : ¬ 1 < parts)
  | dismisses (plain : turn.next.Plain) (after : turn.after = turn.before.dismissBanner.1)
      (parts : Nat) (use : DismissalUse)
      (occasion : turn.occasion = .ready (.entering parts (.dismissBanner use)))
      (last : ¬ 1 < parts)
  | runsOut (timer : OverlayTimer) (plain : turn.next.Plain)
      (after : turn.after = turn.before.runOut timer) (parts : Nat)
      (occasion : turn.occasion = .ready (.entering parts (.runOut timer))) (last : ¬ 1 < parts)
  | names (parts : Nat) (tick : Tick) (round : Round)
      (occasion : turn.occasion = .ready (.entering parts (.nameWinners tick round)))
      (last : ¬ 1 < parts)
      (after : turn.after =
        turn.before.broadcast (.gameOver tick (podium round turn.before.teams)))
      (next : turn.next = .wait (.entering 1 (.keepPodium (podium round turn.before.teams))))
  | keeps (parts : Nat) (winners : List PodiumEntry)
      (occasion : turn.occasion = .ready (.entering parts (.keepPodium winners)))
      (last : ¬ 1 < parts)
      (after : turn.after =
        { turn.before with overlay := turn.before.overlay.setPodium winners })
      (next : turn.next = .wait (.entering 1 (.weighPyro winners)))
  | plays (parts : Nat) (winners : List PodiumEntry)
      (occasion : turn.occasion = .ready (.entering parts (.playPyro winners)))
      (last : ¬ 1 < parts) (after : turn.after = turn.before.playPyro)
      (next : turn.next = .done (.podium (.ok winners)))
  | joins (plain : turn.next.Plain) (after : turn.after = turn.before.joinDashboard.1)
  | prefers (preferences : Preferences) (plain : turn.next.Plain)
      (after : turn.after = turn.before.updatePreferences preferences)
  | emits (event : LiveEvent) (plain : turn.next.Plain)
      (after : turn.after = turn.before.emit event) (called : turn.occasion.Calls event)

namespace Relay

variable {relay : Relay}

/-- What becomes of a round is plain, unless the end of a game has got the one it wants. -/
theorem finishRanking_next (use : RankingUse) (tick : Tick)
    (result : Except ServiceError Snapshot) :
    (relay.finishRanking use tick result).2.Plain ∨ ∃ snapshot, result = .ok snapshot ∧
      (relay.finishRanking use tick result).2 =
        .wait (.entering 1 (.nameWinners tick snapshot.round)) := by
  unfold finishRanking
  -- One case per use, and two for the end of a game.
  split
  · exact .inl trivial
  · exact .inl trivial
  · exact .inl trivial
  · exact .inr ⟨_, rfl, rfl⟩
  · exact .inl trivial

/-- The end of a poll is plain. -/
theorem afterPoll_plain (again : Bool) (delay : Option Span) (now : Nat) :
    (relay.afterPoll again delay now).2.Plain := by
  cases delay <;> cases again <;> trivial

/-- The end of a turn in which an event was handed on is plain. -/
theorem afterEvent_plain (use : EventUse) : (relay.afterEvent use).2.Plain := by
  cases use <;> trivial

end Relay

namespace Turn

variable {turn : Turn}

/-- A turn is as plain as what it comes to. -/
theorem next_plain {result : Relay × Next} (same : turn.result = result)
    (plain : result.2.Plain) : turn.next.Plain := by
  rwa [Turn.next, same]

/-- A turn with a known result, whose task goes on plainly while nothing shared changes. -/
theorem Deed.of_plain {next : Next} (result : turn.result = (turn.before, next))
    (plain : next.Plain) : turn.Deed :=
  .goes (.on (next_plain result plain)) (congrArg Prod.fst result)

/-- The deed of a turn that asks for a round. -/
theorem Deed.of_asks {use : RankingUse} {tick : Tick}
    (asks : turn.before.Asks turn.occasion use tick)
    (result : turn.result = turn.before.askRanking use tick) : turn.Deed :=
  .goes (.asks use tick asks (congrArg Prod.snd result))
    ((congrArg Prod.fst result).trans (Relay.askRanking_relay _ _ _))

/-- The deed of a turn in which the follower looks at the newest tick. -/
theorem Deed.of_followerLook {stage : Stage} (occasion : turn.occasion = .ready stage)
    (follows : stage = .starting .follower ∨ ∃ seen, stage = .watching seen)
    (result : turn.result = turn.before.followerLook) : turn.Deed := by
  unfold Relay.followerLook at result
  dsimp only at result
  -- Before the first scoreboard there is nothing to ask for.
  split at result
  · exact .of_plain result trivial
  · rename_i counted
    exact .of_asks (occasion ▸ .follower stage counted follows) result

/-- The deed of a turn in which a live event is handed on. -/
theorem Deed.of_handleEvent {use : EventUse} {event : LiveEvent}
    (hands : turn.occasion.Hands use event)
    (result : turn.result = turn.before.handleEvent use event) : turn.Deed := by
  have after := congrArg Prod.fst result
  -- A first blood is told at once, and the end of the game starts a task of its own.
  cases event with
  | firstBlood service team =>
    exact .blood use service team hands (next_plain result trivial) after
  | final tick =>
    refine .final use tick hands (next_plain result (Relay.afterEvent_plain use)) ?_
    exact after.trans (Relay.afterEvent_relay _ _)

/-- The deed of a turn that answers a request, other than one for a round. -/
theorem Deed.of_answerRoute {now : Int} {request : Request} {route : Route}
    (other : ∀ tick, route ≠ .ranking tick)
    (called : route = .triggerFinal →
      ∃ parts, turn.occasion = .ready (.entering parts (.answer request .triggerFinal)))
    (result : turn.result = turn.before.answerRoute now request route) : turn.Deed := by
  -- Four routes change something, and the others are answered as things are.
  cases route with
  | ranking tick => exact absurd rfl (other tick)
  | publicStream => exact .joins (next_plain result trivial) (congrArg Prod.fst result)
  | updatePreferences =>
    simp only [Relay.answerRoute] at result
    split at result
    · exact .of_plain result trivial
    · exact .prefers _ (next_plain result trivial) (congrArg Prod.fst result)
  | triggerFinal =>
    simp only [Relay.answerRoute, Relay.triggerFinal] at result
    split at result
    · exact .of_plain result trivial
    · obtain ⟨parts, occasion⟩ := called rfl
      exact .emits _ (next_plain result trivial) (congrArg Prod.fst result)
        (occasion ▸ .final parts request _)
  | triggerFirstBlood =>
    simp only [Relay.answerRoute, Relay.triggerFirstBlood] at result
    split at result
    · exact .of_plain result trivial
    · split at result
      · exact .of_plain result trivial
      · exact .of_plain result trivial
      · exact .emits _ (next_plain result trivial) (congrArg Prod.fst result)
          (.firstBlood _ _ _)
  | state =>
    -- The seconds left may be out of range, and then there is no answer.
    simp only [Relay.answerRoute] at result
    split at result <;> exact .of_plain result trivial
  | _ => exact .of_plain result trivial

/-- The deed of a turn behind the last part of the shared state that its task needs. -/
theorem Deed.of_perform {parts : Nat} {step : Step}
    (occasion : turn.occasion = .ready (.entering parts step)) (last : ¬ 1 < parts)
    (result : turn.result = turn.before.perform turn.now turn.jitter step) : turn.Deed := by
  have after := congrArg Prod.fst result
  have next := congrArg Prod.snd result
  -- One case per step, in the words of the step itself.
  cases step with
  | absorbState again response =>
    exact .absorbs parts again response occasion (next_plain result (Relay.afterPoll_plain _ _ _))
      (after.trans (Relay.afterPoll_relay _ _ _ _)) last
  | storeTeams document =>
    exact .learns _ (next_plain result trivial) after parts document occasion last
  | settleRound use tick snapshot =>
    refine .settles parts use tick snapshot occasion last
      (after.trans (Relay.finishRanking_relay _ _ _ _)) (next.trans ?_)
    -- Where the round is handed out does not depend on the relay.
    simp only [Relay.perform, Relay.finishRanking]
    split <;> rfl
  | lookUpHistory use team =>
    simp only [Relay.perform, Relay.lookUpHistory] at result
    split at result <;> exact .of_plain result trivial
  | nameWinners tick round => exact .names parts tick round occasion last after next
  | keepPodium winners => exact .keeps parts winners occasion last after next
  | weighPyro winners =>
    -- The preferences decide where the task goes, and nothing is changed either way.
    refine .goes (.weighs parts winners occasion (next.trans ?_)) (after.trans ?_)
    · simp only [Relay.perform, Relay.weighPyro]
      split <;> rfl
    · simp only [Relay.perform, Relay.weighPyro]
      split <;> rfl
  | playPyro winners => exact .plays parts winners occasion last after next
  | weighBanner use service team =>
    -- Whether the banner is wanted or not, only the task goes on.
    simp only [Relay.perform, Relay.weighBanner] at result
    split at result
    · exact .of_plain result trivial
    · cases use <;> exact .of_plain result trivial
  | showBanner use service team =>
    exact .shows service team (next_plain result (Relay.afterEvent_plain _))
      (after.trans (Relay.afterEvent_relay _ _)) parts use occasion last
  | dismissBanner use =>
    refine .dismisses (next_plain result ?_) (after.trans ?_) parts use occasion last
    · cases use <;> trivial
    · cases use <;> rfl
  | runOut timer => exact .runsOut timer (next_plain result trivial) after parts occasion last
  | replaceState current =>
    exact .replaces parts current _ occasion (next_plain result trivial) after
  | answer request route =>
    by_cases ranking : ∃ tick, route = .ranking tick
    · obtain ⟨tick, rfl⟩ := ranking
      simp only [Relay.perform, Relay.answerRoute] at result
      split at result
      · exact .of_plain result trivial
      · rename_i published
        exact .of_asks (occasion ▸ .request parts request tick (Int64.not_lt.mp published) last)
          result
    · exact .of_answerRoute (fun tick same => ranking ⟨tick, same⟩)
        (fun same => ⟨parts, same ▸ occasion⟩) result
  | look => exact .of_plain result trivial

/-- The deed of a turn that begins with a call. -/
theorem Deed.of_call {call : Call} (occasion : turn.occasion = .call call)
    (result : turn.result = turn.before.receive turn.now call) : turn.Deed := by
  cases call with
  | start task =>
    exact .goes (.spawned task occasion (congrArg Prod.snd result)) (congrArg Prod.fst result)
  | request request =>
    simp only [Relay.receive, Relay.answer] at result
    -- A request without a route is refused, and one may have to wait for a part of the state.
    split at result
    · exact .of_plain result trivial
    · rename_i route _
      split at result
      · -- A ranking is looked up behind a part of the state, so it is not answered here.
        -- Nor is the end of the game called out here.
        rename_i none
        refine .of_answerRoute (fun tick same => ?_) (fun same => ?_) result
        · subst same
          cases none
        · subst same
          cases none
      · exact .of_plain result trivial
  | ranking tick => exact .of_asks (occasion ▸ .lookup tick) result
  | event event => exact .of_handleEvent (occasion ▸ .asked event) result
  | _ => exact .of_plain result trivial

/-- The deed of a turn of a task that waited for something else than a reply. -/
theorem Deed.of_ready {backend : Backend} {stage : Stage}
    (occasion : turn.occasion = .ready stage) (due : turn.IsDue backend)
    (result : turn.result = turn.before.resume turn.now turn.jitter stage) : turn.Deed := by
  have after := congrArg Prod.fst result
  have next := congrArg Prod.snd result
  simp only [Turn.IsDue, occasion] at due
  -- The stages that lead to another round, or have waited for a tick, say more than the others.
  cases stage with
  | starting task =>
    cases task with
    | follower => exact .of_followerLook occasion (.inl rfl) result
    | gameOver tick => exact .goes (.awaits tick occasion next) after
    | _ => exact .of_plain result trivial
  | entering parts step =>
    simp only [Relay.resume] at result
    split at result
    · -- One more part of the shared state is to be got hold of before the step.
      exact .goes (.queued parts step occasion (congrArg Prod.snd result))
        (congrArg Prod.fst result)
    · rename_i last
      exact .of_perform occasion last result
  | pausingRound use tick retry deadline =>
    exact .goes (.retries use tick retry deadline occasion next) after
  | fetchingRound use tick retry => cases due
  | watching seen => exact .of_followerLook occasion (.inr ⟨seen, rfl⟩) result
  | awaitingTick tick =>
    refine .of_asks (occasion ▸ .gameOver tick ?_) result
    simpa [Relay.meets, Stage.wait] using due
  | listening limiter position =>
    simp only [Relay.resume, Relay.listen] at result
    split at result <;> exact .of_plain result trivial
  | holding limiter position event deadline =>
    exact .of_handleEvent (occasion ▸ .held limiter position event deadline) result
  | _ => exact .of_plain result trivial

/-- The deed of a turn of a task that waited for a reply. -/
theorem Deed.of_reply {backend : Backend} {stage : Stage} {reply : Reply}
    (occasion : turn.occasion = .reply stage reply) (due : turn.IsDue backend)
    (result : turn.result = turn.before.resumeWithReply turn.now.elapsed reply stage) :
    turn.Deed := by
  simp only [Turn.IsDue, occasion] at due
  obtain ⟨endpoint, waits, _⟩ := due
  -- Five stages wait for replies, and the others get none.
  cases stage with
  | polling again =>
    simp only [Relay.resumeWithReply] at result
    cases answered : reply.stateResponse with
    | ok response =>
      rw [answered] at result
      exact .goes (.polls again reply response occasion answered (congrArg Prod.snd result))
        (congrArg Prod.fst result)
    | error problem =>
      rw [answered] at result
      exact .misses (next_plain result (Relay.afterPoll_plain _ _ _))
        ((congrArg Prod.fst result).trans (Relay.afterPoll_relay _ _ _ _)) again reply problem
        occasion answered
  | loadingTeams retry =>
    simp only [Relay.resumeWithReply, Relay.continueTeams] at result
    split at result
    · exact .of_plain result trivial
    · split at result <;> exact .of_plain result trivial
  | fetchingRound use tick retry =>
    simp only [Relay.resumeWithReply] at result
    rcases turn.before.continueRanking_cases use tick retry turn.now.elapsed
      (reply.document (.round tick) .round) with
      ⟨round, served, continued⟩ | ⟨again, deadline, continued⟩ | ⟨problem, continued⟩
    · rw [continued] at result
      exact .stores use tick retry reply round occasion served (congrArg Prod.fst result)
        (congrArg Prod.snd result)
    · rw [continued] at result
      exact .goes (.pauses use tick retry again deadline reply occasion (congrArg Prod.snd result))
        (congrArg Prod.fst result)
    · rw [continued] at result
      exact .goes (.givesUp use tick retry reply problem occasion (congrArg Prod.snd result))
        ((congrArg Prod.fst result).trans (Relay.finishRanking_relay _ _ _ _))
  | fetchingHistory use team retry =>
    simp only [Relay.resumeWithReply, Relay.continueHistory] at result
    split at result
    · rename_i history served
      exact .files use team retry reply history occasion served (next_plain result trivial)
        (congrArg Prod.fst result)
    · split at result <;> exact .of_plain result trivial
  | fetchingStats use retry =>
    simp only [Relay.resumeWithReply, Relay.continueStats] at result
    split at result
    · exact .of_plain result trivial
    · split at result <;> exact .of_plain result trivial
  | _ => cases waits

/-- Every turn that is due does one of the deeds. -/
theorem deed {backend : Backend} (due : turn.IsDue backend) : turn.Deed := by
  -- The cases are the three occasions for a turn.
  cases occasion : turn.occasion with
  | call call => exact .of_call occasion (by simp only [Turn.result, occasion])
  | ready stage => exact .of_ready occasion due (by simp only [Turn.result, occasion])
  | reply stage reply => exact .of_reply occasion due (by simp only [Turn.result, occasion])

end Turn

/-- Every step of a run does one of the deeds. -/
theorem World.Step.deed {backend : Backend} {world later : World} {turn : Turn}
    (step : world.Step backend turn later) : turn.Deed :=
  Turn.deed step.due

/-- Every turn of a run does one of the deeds. -/
theorem Run.deed {backend : Backend} {start world : World} {past : List Turn}
    (run : Run backend start past world) {turn : Turn} (member : turn ∈ past) : turn.Deed :=
  Turn.deed (run.due_of_mem member)

end Scoreboard
