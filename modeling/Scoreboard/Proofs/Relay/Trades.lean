import Scoreboard.Proofs.Relay.Changes
import Scoreboard.Proofs.Schedule

/-! Trades: timers and the team loader stay what they are, and no other task comes to be one. -/

namespace Scoreboard

/-- The timer or the team loader that a task is at its stage. -/
def Stage.trade? : Stage → Option NewTask
  | .starting (.timer timer) | .timing timer _ | .entering _ (.runOut timer) => some (.timer timer)
  | .starting .teamLoader | .loadingTeams _ | .pausingTeams _ _ | .restingTeams _
  | .entering _ (.storeTeams _) => some .teamLoader
  | _ => none

/-- The timer or the team loader that a task is behind its turn. -/
def Next.trade? : Next → Option NewTask
  | .wait stage => stage.trade?
  | .done _ => none

/-- A task keeps its trade, or gives it up. -/
def Next.Keeps (next : Next) (trade : Option NewTask) : Prop :=
  next.trade? = none ∨ next.trade? = trade

namespace Relay

variable {relay : Relay}

/-- What becomes of a round is neither a timer nor the team loader. -/
theorem finishRanking_trade? (use : RankingUse) (tick : Tick)
    (result : Except ServiceError Snapshot) :
    (relay.finishRanking use tick result).2.trade? = none := by
  unfold finishRanking
  split <;> rfl

/-- Who asks for a round has no trade. -/
theorem askRanking_trade? (use : RankingUse) (tick : Tick) :
    (relay.askRanking use tick).2.trade? = none := by
  -- The tick is refused, found in the cache, or asked for.
  rcases relay.askRanking_cases use tick with ⟨_, asked⟩ | ⟨_, _, _, asked⟩ | ⟨_, _, asked⟩
  · rw [asked, finishRanking_trade?]
  · rw [asked]
    rfl
  · rw [asked]
    rfl

/-- The follower has no trade. -/
theorem followerLook_trade? : relay.followerLook.2.trade? = none := by
  -- The follower waits for the next scoreboard, or asks for a round.
  simp only [followerLook]
  split
  · rfl
  · exact askRanking_trade? _ _

/-- Who handles an event has no trade. -/
theorem handleEvent_trade? (use : EventUse) (event : LiveEvent) :
    (relay.handleEvent use event).2.trade? = none := by
  cases event with
  | firstBlood service team => rfl
  | final tick => cases use <;> rfl

/-- Who answers a request has no trade. -/
theorem answerRoute_trade? (now : Int) (request : Request) (route : Route) :
    (relay.answerRoute now request route).2.trade? = none := by
  -- A ranking is asked for, some requests go on to a document, and the others are answered.
  cases route with
  | ranking tick =>
    simp only [answerRoute]
    split
    · rfl
    · exact askRanking_trade? _ _
  | updatePreferences =>
    simp only [answerRoute]
    split <;> rfl
  | triggerFirstBlood =>
    simp only [answerRoute]
    split <;> rfl
  | state =>
    simp only [answerRoute]
    split <;> rfl
  | _ => rfl

/-- A step behind a part of the shared state is neither a timer nor the team loader afterwards. -/
theorem perform_trade? (now : Moment) (jitter : Float) (step : Step) :
    (relay.perform now jitter step).2.trade? = none := by
  cases step with
  | absorbState again response =>
    -- The poll breaks off, or goes on to a rest or to its end.
    simp only [perform, afterPoll]
    split
    · rfl
    · cases again <;> rfl
  | settleRound use tick snapshot => exact finishRanking_trade? _ _ _
  | lookUpHistory use team =>
    simp only [perform, lookUpHistory]
    split <;> rfl
  | weighPyro winners =>
    simp only [perform, weighPyro]
    split <;> rfl
  | weighBanner use service team =>
    simp only [perform, weighBanner]
    split
    · rfl
    · cases use <;> rfl
  | showBanner use service team => cases use <;> rfl
  | dismissBanner use => cases use <;> rfl
  | answer request route => exact answerRoute_trade? _ _ _
  | _ => rfl

/-- Whoever gets a reply keeps its trade. -/
theorem resumeWithReply_keeps (now : Nat) (reply : Reply) (stage : Stage) :
    (relay.resumeWithReply now reply stage).2.Keeps stage.trade? := by
  -- The cases are the stages that wait for a reply, and the loader is the one with a trade.
  cases stage with
  | polling again =>
    simp only [resumeWithReply, continuePoll]
    split
    · exact .inl rfl
    · cases again <;> exact .inl rfl
  | loadingTeams retry =>
    simp only [resumeWithReply, continueTeams]
    split
    · exact .inr rfl
    · split <;> exact .inr rfl
  | fetchingRound use tick retry =>
    simp only [resumeWithReply]
    rcases relay.continueRanking_cases use tick retry now (reply.document (.round tick) .round) with
      ⟨_, _, continued⟩ | ⟨_, _, continued⟩ | ⟨_, continued⟩
    · rw [continued]
      exact .inl rfl
    · rw [continued]
      exact .inl rfl
    · exact .inl (by rw [continued, finishRanking_trade?])
  | fetchingHistory use team retry =>
    simp only [resumeWithReply, continueHistory]
    split
    · exact .inl rfl
    · split <;> exact .inl rfl
  | fetchingStats use retry =>
    simp only [resumeWithReply, continueStats]
    split
    · exact .inl rfl
    · split <;> exact .inl rfl
  | _ => exact .inr rfl

/-- Whoever gets anything else that it waited for keeps its trade. -/
theorem resume_keeps (now : Moment) (jitter : Float) (stage : Stage) :
    (relay.resume now jitter stage).2.Keeps stage.trade? := by
  -- The cases are the stages, and those with a trade end or go on in it.
  cases stage with
  | starting task =>
    cases task with
    | follower => exact .inl followerLook_trade?
    | _ => exact .inr rfl
  | entering parts step =>
    simp only [resume]
    split
    · -- The step is the same, with one part less in front of it.
      exact .inr (by cases step <;> rfl)
    · exact .inl (perform_trade? _ _ _)
  | watching seen => exact .inl followerLook_trade?
  | awaitingTick tick => exact .inl (askRanking_trade? _ _)
  | listening limiter position =>
    simp only [resume, listen]
    split <;> exact .inl rfl
  | holding limiter position event deadline => exact .inl (handleEvent_trade? _ _)
  | _ => exact .inr rfl

/-- A call for anything but a task to start leads to neither a timer nor the team loader. -/
theorem receive_trade? (relay : Relay) (now : Moment) {call : Call}
    (other : ∀ task, call ≠ .start task) : (relay.receive now call).2.trade? = none := by
  -- The cases are the calls, with the routes of a request behind their own lemma.
  cases call with
  | start task => exact absurd rfl (other task)
  | request request =>
    simp only [receive, answer]
    split
    · rfl
    · split
      · exact answerRoute_trade? _ _ _
      · rfl
  | ranking tick => exact askRanking_trade? _ _
  | event event => exact handleEvent_trade? _ _
  | _ => rfl

end Relay

/-- Whoever has a trade behind its turn had it before, or was started by a call. -/
theorem Turn.trade_cases {turn : Turn} {task : NewTask} (next : turn.next.trade? = some task) :
    (∃ stage, turn.occasion.stages = [stage] ∧ stage.trade? = some task) ∨
      turn.occasion = .call (.start task) := by
  -- The cases are the three occasions for a turn, and only a call begins anything.
  have kept : ∀ {stage : Stage}, turn.next.Keeps stage.trade? → stage.trade? = some task := by
    rintro stage (none | same)
    · cases none.symm.trans next
    · exact same.symm.trans next
  cases occasion : turn.occasion with
  | ready stage =>
    refine .inl ⟨stage, rfl, kept ?_⟩
    simpa only [Turn.next, Turn.result, occasion] using
      Relay.resume_keeps turn.now turn.jitter stage
  | reply stage reply =>
    refine .inl ⟨stage, rfl, kept ?_⟩
    simpa only [Turn.next, Turn.result, occasion] using
      Relay.resumeWithReply_keeps turn.now.elapsed reply stage
  | call call =>
    right
    by_cases starts : ∃ other, call = .start other
    · obtain ⟨other, rfl⟩ := starts
      have started : turn.next = .wait (.starting other) := by
        simp only [Turn.next, Turn.result, occasion, Relay.receive]
      rw [started] at next
      cases other <;> cases next <;> rfl
    · have none := turn.before.receive_trade? turn.now fun other same => starts ⟨other, same⟩
      have same : turn.next = (turn.before.receive turn.now call).2 := by
        simp only [Turn.next, Turn.result, occasion]
      rw [same, none] at next
      cases next

end Scoreboard
