import Scoreboard.Proofs.Ranking.Overtaking
import Scoreboard.Proofs.Relay.Documents
import Scoreboard.Proofs.Relay.Signals
import Scoreboard.Proofs.Relay.Strand

/-! Published rounds: the backend is asked for no other, whoever wants them. -/

namespace Scoreboard

/-- The state of the game in the reply that a turn gets to a poll. -/
def Turn.polledState? (turn : Turn) : Option CurrentState :=
  match turn.occasion with
  | .reply (.polling _) reply => reply.stateResponse.toOption.map StateResponse.state
  | _ => none

/-- The states of the game that polls brought, in their order. -/
def polledStates (past : List Turn) : List CurrentState :=
  past.filterMap Turn.polledState?

/-- The scoreboard has reached a tick in one of some states of the game. -/
def Reached (states : List CurrentState) (tick : Tick) : Prop :=
  ∃ state ∈ states, tick ≤ state.scoreboardTick

/-- A task asks for a tick that the scoreboard has reached, or takes in a state that was polled. -/
def Stage.Published (states : List CurrentState) : Stage → Prop
  | .fetchingRound _ tick _ | .pausingRound _ tick _ _ => 0 ≤ tick ∧ Reached states tick
  | .entering _ (.absorbState _ response) => response.state ∈ states
  -- No task takes in a state in any other way.
  | .entering _ (.replaceState _) => False
  | _ => True

/-- The ticks that the relay holds are reached, unless they are those before the first poll. -/
structure Relay.Published (states : List CurrentState) (relay : Relay) : Prop where
  scoreboard : 0 ≤ relay.scoreboardTick → Reached states relay.scoreboardTick
  newest : 0 ≤ relay.newestTick → Reached states relay.newestTick

/-- The relay and all its tasks know of no tick that the scoreboard has not reached. -/
structure World.Published (states : List CurrentState) (world : World) : Prop where
  relay : world.relay.Published states
  tasks : ∀ stage ∈ world.tasks, stage.Published states

section States

variable {states : List CurrentState}

/-- A scoreboard that has reached a tick has reached every earlier one. -/
theorem Reached.of_le {tick later : Tick} (order : tick ≤ later) (reached : Reached states later) :
    Reached states tick := by
  obtain ⟨state, member, above⟩ := reached
  exact ⟨state, member, Int64.le_trans order above⟩

/-- A tick that was reached stays so, whatever is polled later. -/
theorem Reached.more {tick : Tick} (reached : Reached states tick) (later : List CurrentState) :
    Reached (states ++ later) tick := by
  obtain ⟨state, member, above⟩ := reached
  exact ⟨state, List.mem_append_left later member, above⟩

/-- A stage that asks for what was published does so whatever is polled later. -/
theorem Stage.Published.more {stage : Stage} (published : stage.Published states)
    (later : List CurrentState) : stage.Published (states ++ later) := by
  -- Only stages on the way to a round or a state have something to keep.
  cases stage with
  | fetchingRound use tick retry => exact ⟨published.1, published.2.more later⟩
  | pausingRound use tick retry deadline => exact ⟨published.1, published.2.more later⟩
  | entering parts step =>
    cases step with
    | absorbState again response => exact List.mem_append_left later published
    | replaceState current => exact published
    | _ => trivial
  | _ => trivial

/-- A plain stage asks for no round and takes no state in. -/
theorem Stage.Plain.published {stage : Stage} (plain : stage.Plain) : stage.Published states := by
  -- The stages that ask for a round or take a state in are not plain.
  cases stage with
  | fetchingRound use tick retry => cases plain
  | pausingRound use tick retry deadline => cases plain
  | entering parts step =>
    cases step with
    | absorbState again response => cases plain
    | replaceState current => cases plain
    | _ => trivial
  | _ => trivial

/-- A task goes on to a stage that asks for no tick but reached ones, or ends. -/
def Next.Published (states : List CurrentState) (next : Next) : Prop :=
  ∀ stage ∈ next.stages, stage.Published states

/-- A task that waits asks for what its stage asks for. -/
theorem Next.Published.wait {stage : Stage} (published : stage.Published states) :
    (Next.wait stage).Published states := by
  intro other member
  rwa [List.mem_singleton.mp member]

/-- A task that has ended asks for nothing. -/
theorem Next.Published.done {outcome : Outcome} : (Next.done outcome).Published states :=
  fun _ member => nomatch member

/-- A plain outcome asks for nothing. -/
theorem Next.Plain.published {next : Next} (plain : next.Plain) : next.Published states := by
  cases next with
  | wait stage => exact .wait (Stage.Plain.published plain)
  | done outcome => exact .done

namespace Relay

variable {relay : Relay}

/-- What becomes of a round once it is there is not another request for a round. -/
theorem finishRanking_published (use : RankingUse) (tick : Tick)
    (result : Except ServiceError Snapshot) :
    (relay.finishRanking use tick result).2.Published states := by
  -- Either the outcome is plain, or a podium is named behind the round.
  rcases relay.finishRanking_next use tick result with plain | ⟨snapshot, _, next⟩
  · exact Next.Plain.published plain
  · rw [next]
    exact .wait trivial

/-- A task that asks for a round asks the backend for a tick from zero on that is reached. -/
theorem askRanking_published (use : RankingUse) {tick : Tick}
    (reached : 0 ≤ tick → Reached states tick) :
    (relay.askRanking use tick).2.Published states := by
  -- The tick is refused, found in the cache or asked for.
  rcases relay.askRanking_cases use tick with
    ⟨_, asked⟩ | ⟨_, snapshot, _, asked⟩ | ⟨counted, _, asked⟩
  · -- A tick below zero never comes to the backend.
    rw [asked]
    exact finishRanking_published use tick _
  · rw [asked]
    exact .wait trivial
  · rw [asked]
    exact .wait ⟨counted, reached counted⟩

/-- Whoever asks for a round, other than a lookup, asks for a tick that is reached. -/
theorem Published.asks (published : relay.Published states) {occasion : Occasion}
    {use : RankingUse} {tick : Tick} (asks : relay.Asks occasion use tick)
    (unasked : occasion ≠ .call (.ranking tick)) (counted : 0 ≤ tick) : Reached states tick := by
  -- The newest tick and the scoreboard are reached, and so is every tick below them.
  cases asks with
  | lookup => exact absurd rfl unasked
  | follower stage => exact published.newest counted
  | gameOver tick below => exact (published.newest (Int64.le_trans counted below)).of_le below
  | request parts request tick below =>
    exact (published.scoreboard (Int64.le_trans counted below)).of_le below

end Relay

namespace Turn

variable {turn : Turn}

/-- Only a poll that is taken in moves the ticks, and only to the tick that it brings. -/
theorem Deed.ticks (deed : turn.Deed) (quiet : turn.before.signals = []) :
    (turn.after.scoreboardTick = turn.before.scoreboardTick ∧
        turn.after.newestTick = turn.before.newestTick) ∨
      (∃ parts again response,
        turn.occasion = .ready (.entering parts (.absorbState again response)) ∧
        turn.after.scoreboardTick = response.state.scoreboardTick ∧
        (turn.after.newestTick = turn.before.newestTick ∨
          turn.after.newestTick = response.state.scoreboardTick)) ∨
      ∃ parts current, turn.occasion = .ready (.entering parts (.replaceState current)) := by
  -- All deeds but two leave the state of the game alone, and the channel of the newest tick too.
  cases deed with
  | absorbs parts again response occasion plain after =>
    have ticks := turn.before.absorbState_ticks response turn.now.unix turn.jitter
    rw [← after] at ticks
    exact .inr (.inl ⟨parts, again, response, occasion, ticks⟩)
  | replaces parts current live occasion plain after => exact .inr (.inr ⟨parts, current, occasion⟩)
  | settles parts use tick snapshot occasion last after =>
    rw [after]
    obtain ⟨scoreboard, newest, _⟩ := turn.before.settleRound_follow quiet tick snapshot.round
    exact .inl ⟨scoreboard, newest⟩
  | misses plain after =>
    obtain ⟨hub, signals, missed⟩ := turn.before.missState_eq
    rw [after, missed]
    exact .inl ⟨rfl, rfl⟩
  | dismisses plain after =>
    obtain ⟨hub, signals, changed⟩ :=
      turn.before.overlayChanged_eq turn.before.overlay.dismissFirstBlood
    rw [after, Relay.dismissBanner, changed]
    exact .inl ⟨rfl, rfl⟩
  | runsOut timer plain after =>
    obtain ⟨hub, signals, changed⟩ :=
      turn.before.overlayChanged_eq (turn.before.overlay.ranOut timer)
    rw [after, Relay.runOut_eq, changed]
    exact .inl ⟨rfl, rfl⟩
  | _ =>
    rw [‹turn.after = _›]
    exact .inl ⟨rfl, rfl⟩

/-- A task goes on to ask for no tick but reached ones, if that is all it was about. -/
theorem Deed.next_published (deed : turn.Deed) (published : turn.before.Published states)
    (own : ∀ stage ∈ turn.occasion.stages, stage.Published states)
    (unasked : ∀ tick, turn.occasion ≠ .call (.ranking tick)) :
    turn.next.Published (states ++ turn.polledState?.toList) := by
  -- A task asks for a round now, or did before, or is about to take in what it has polled.
  cases deed with
  | goes goes after =>
    cases goes with
    | on plain => exact Next.Plain.published plain
    | asks use tick asks next =>
      rw [next]
      exact Relay.askRanking_published use fun counted =>
        (published.asks asks (unasked tick) counted).more _
    | retries use tick retry deadline occasion next =>
      have waited := own (.pausingRound use tick retry deadline)
        (by simp [occasion, Occasion.stages])
      rw [next]
      exact .wait ⟨waited.1, waited.2.more _⟩
    | pauses use tick retry again deadline reply occasion next =>
      have waited := own (.fetchingRound use tick retry) (by simp [occasion, Occasion.stages])
      rw [next]
      exact .wait ⟨waited.1, waited.2.more _⟩
    | givesUp use tick retry reply problem occasion next =>
      rw [next]
      exact Relay.finishRanking_published use tick _
    | polls again reply response occasion answered next =>
      -- The state that is about to be taken in is the one that has just been polled.
      have polled : turn.polledState? = some response.state := by
        simp [polledState?, occasion, answered, Except.toOption]
      rw [next, polled]
      exact .wait (List.mem_append_right states (List.mem_singleton_self _))
    | queued parts step occasion next =>
      have waited := own (.entering parts step) (by simp [occasion, Occasion.stages])
      rw [next]
      cases step with
      | absorbState again response => exact .wait (List.mem_append_left _ waited)
      | replaceState current => exact waited.elim
      | _ => exact .wait trivial
    | spawned task occasion next => exact next ▸ .wait trivial
    | awaits tick occasion next => exact next ▸ .wait trivial
    | weighs parts winners occasion next =>
      rw [next]
      split
      · exact .wait trivial
      · exact .done
  | stores use tick retry reply round occasion served after next => exact next ▸ .wait trivial
  | settles parts use tick snapshot occasion last after next =>
    rw [next]
    exact Relay.finishRanking_published use tick _
  | names parts tick round occasion last after next => exact next ▸ .wait trivial
  | keeps parts winners occasion last after next => exact next ▸ .wait trivial
  | plays parts winners occasion last after next => exact next ▸ .done
  | _ => exact Next.Plain.published ‹turn.next.Plain›

/-- The ticks of the relay stay reached, or are those of a state that was polled. -/
theorem Deed.relay_published (deed : turn.Deed) (quiet : turn.before.signals = [])
    (published : turn.before.Published states)
    (own : ∀ stage ∈ turn.occasion.stages, stage.Published states) :
    turn.after.Published states := by
  -- The ticks of a relay stay, or a poll brings them, or they are set by hand.
  rcases deed.ticks quiet with ⟨scoreboard, newest⟩ |
    ⟨parts, again, response, occasion, scoreboard, newest⟩ | ⟨parts, current, occasion⟩
  · exact ⟨scoreboard ▸ published.scoreboard, newest ▸ published.newest⟩
  · -- The state that is taken in is one that was polled.
    have polled : response.state ∈ states :=
      own (.entering parts (.absorbState again response)) (by simp [occasion, Occasion.stages])
    have reached : Reached states response.state.scoreboardTick :=
      ⟨response.state, polled, Int64.le_refl _⟩
    refine ⟨fun _ => scoreboard ▸ reached, fun counted => ?_⟩
    rcases newest with same | brought
    · exact same ▸ published.newest (same ▸ counted)
    · exact brought ▸ reached
  · exact (own (.entering parts (.replaceState current)) (by simp [occasion, Occasion.stages])).elim

end Turn

end States

section Runs

variable {backend : Backend} {notificationInterval : Nat} {preferences : Preferences}
  {tasks : List NewTask} {past : List Turn} {world : World}

/-- At every moment of a run, the relay and its tasks know of no tick that no poll has brought. -/
theorem Run.published
    (run : Run backend (.initial notificationInterval preferences tasks) past world)
    (unasked : ∀ turn ∈ past, ∀ tick, turn.occasion ≠ .call (.ranking tick)) :
    world.Published (polledStates past) := by
  induction run with
  | begin =>
    -- Before the first poll the ticks are below zero, and the tasks are in front of their turns.
    have unknown : ¬ 0 ≤ LiveState.initial.current.scoreboardTick := by decide
    have unheard : ¬ 0 ≤ EventBus.initial.newestTick.value := by decide
    refine ⟨⟨fun counted => absurd counted unknown, fun counted => absurd counted unheard⟩,
      fun stage waits => ?_⟩
    obtain ⟨task, _, rfl⟩ := List.mem_map.mp waits
    trivial
  | @step past world later turn run step ih =>
    have known := ih fun other member => unasked other (List.mem_append_left _ member)
    have own : ∀ stage ∈ turn.occasion.stages, stage.Published (polledStates past) :=
      fun stage taken => known.tasks stage (step.occasion_mem taken)
    have relay : turn.before.Published (polledStates past) := step.before ▸ known.relay
    have quiet : turn.before.signals = [] := step.before ▸ run.quiet rfl
    have polled : polledStates (past ++ [turn]) =
        polledStates past ++ turn.polledState?.toList := by
      rw [polledStates, List.filterMap_append]
      cases found : turn.polledState? <;> simp [polledStates, found]
    rw [polled]
    constructor
    · -- What the turn has done to the ticks is in step with the polls so far.
      have after := step.deed.relay_published quiet relay own
      rw [step.relay]
      exact ⟨fun counted => (after.scoreboard counted).more _,
        fun counted => (after.newest counted).more _⟩
    · -- A task under way was so before, or has just had its turn, or has just been started.
      intro stage waits
      rcases step.tasks_mem waits with before | next | ⟨task, rfl⟩
      · exact (known.tasks stage before).more _
      · refine step.deed.next_published relay own (unasked turn (by simp)) stage ?_
        rw [next]
        exact List.mem_singleton_self _
      · trivial

/-- A turn that brings a state to take in asks for no round. -/
theorem Turn.polledState?_eq_none {turn : Turn} {stage : Stage} {tick : Tick}
    (next : turn.next = .wait stage) (asks : stage.wait = .reply (.round tick)) :
    turn.polledState? = none := by
  unfold Turn.polledState?
  split
  · rename_i again reply occasion
    cases answered : reply.stateResponse with
    | error problem => rfl
    | ok response =>
      -- The task enters the shared state next, and gets no reply there.
      have enters : turn.next = .wait (.entering 1 (.absorbState again response)) := by
        simp only [Turn.next, Turn.result, occasion, Relay.resumeWithReply, Relay.continuePoll,
          answered, Relay.enter]
      rw [enters] at next
      cases next
      cases asks
  · rfl

/-- A request for a ranking that is not published is refused in its second turn. -/
theorem Strand.refused {first turn : Turn} {own : List Turn} {next : Next} {request : Request}
    {tick : Tick} (asked : first.occasion = .call (.request request))
    (route : routeOf request.method request.address.toList = .ok (.ranking tick))
    (strand : Strand first.next (turn :: own) next) (due : turn.IsDue backend)
    (unpublished : tick < 0 ∨ turn.before.scoreboardTick < tick) :
    first.after = first.before ∧
      first.next = .wait (.entering 1 (.answer request (.ranking tick))) ∧
      turn.after = turn.before ∧
      turn.next = .done (.response (.ofError (if turn.before.scoreboardTick < tick
        then .unpublishedTick tick else .negativeTick tick))) ∧ own = [] := by
  have enters : first.result =
      (first.before, .wait (.entering 1 (.answer request (.ranking tick)))) := by
    have parts : first.before.partsNeeded request (.ranking tick) = 1 := rfl
    simp only [Turn.result, asked, Relay.receive, Relay.answer, route, parts]
  have waits : first.next = .wait (.entering 1 (.answer request (.ranking tick))) :=
    congrArg Prod.snd enters
  -- The turn behind the call is the one that answers it.
  obtain ⟨⟨stage, same, takes⟩, behind⟩ := strand.uncons rfl
  rw [waits] at same
  cases same
  have occasion := Turn.ready_of_takes due takes (by simp [Stage.wait])
  have refused : turn.result = (turn.before, .done (.response (.ofError
      (if turn.before.scoreboardTick < tick then .unpublishedTick tick
        else .negativeTick tick)))) := by
    simp only [Turn.result, occasion, Relay.resume, Relay.perform, Relay.answerRoute,
      Relay.askRanking, Relay.finishRanking, Relay.respond]
    -- A tick above the scoreboard is refused before the sign of the tick is looked at.
    by_cases above : turn.before.scoreboardTick < tick
    · simp [above]
    · have negative := unpublished.resolve_right above
      simp [above, negative, Response.ofResult]
  refine ⟨congrArg Prod.fst enters, waits, congrArg Prod.fst refused, congrArg Prod.snd refused, ?_⟩
  -- The task has ended, so no turn follows.
  cases own with
  | nil => rfl
  | cons more rest =>
    have ended : turn.next = .done _ := congrArg Prod.snd refused
    obtain ⟨⟨stage, waiting, _⟩, _⟩ := behind.uncons rfl
    rw [ended] at waiting
    cases waiting

/--
The backend is asked for no round but those of ticks that the scoreboard has reached.

Nobody may look a round up by itself, without a request. Then every tick that the backend is asked
for lies between zero and a scoreboard tick that a poll has brought before. A request for a ranking
whose tick is negative or above the scoreboard is refused in two turns, and these leave everything
as it was and ask the backend for nothing.
-/
theorem unpublished_round_never_requested
    (run : Run backend (.initial notificationInterval preferences tasks) past world)
    (unasked : ∀ turn ∈ past, ∀ tick, turn.occasion ≠ .call (.ranking tick)) :
    (∀ (earlier : List Turn) (turn : Turn) (later : List Turn) (stage : Stage) (tick : Tick),
      past = earlier ++ turn :: later → turn.next = .wait stage →
      stage.wait = .reply (.round tick) → 0 ≤ tick ∧ Reached (polledStates earlier) tick) ∧
    ∀ (first turn : Turn) (own : List Turn) (next : Next) (request : Request) (tick : Tick),
      first.occasion = .call (.request request) →
      routeOf request.method request.address.toList = .ok (.ranking tick) →
      Strand first.next (turn :: own) next → (turn :: own).Sublist past →
      (tick < 0 ∨ turn.before.scoreboardTick < tick) →
        first.after = first.before ∧
        first.next = .wait (.entering 1 (.answer request (.ranking tick))) ∧
        turn.after = turn.before ∧
        turn.next = .done (.response (.ofError (if turn.before.scoreboardTick < tick
          then .unpublishedTick tick else .negativeTick tick))) ∧ own = [] := by
  constructor
  · intro earlier turn later stage tick parts next asks
    obtain ⟨between, after, before, step⟩ := run.split parts
    -- What was known in front of the turn is known of the task behind it.
    have known := before.published fun other member =>
      unasked other (parts ▸ List.mem_append_left _ member)
    have published := step.deed.next_published (step.before ▸ known.relay)
      (fun stage taken => known.tasks stage (step.occasion_mem taken))
      (unasked turn (parts ▸ by simp))
    rw [Turn.polledState?_eq_none next asks, Option.toList_none, List.append_nil, next] at published
    have asked := published stage (List.mem_singleton_self _)
    cases stage with
    | fetchingRound use other retry =>
      cases asks
      exact asked
    | _ => cases asks
  · intro first turn own next request tick asked route strand inside unpublished
    have due := run.due_of_mem (inside.subset List.mem_cons_self)
    exact strand.refused asked route due unpublished

end Runs

set_option maxRecDepth 100000 in
/-- The follower asks for a round only after a poll has brought its tick. -/
theorem followed_round_was_polled :
    ∃ earlier turn later world,
      Run Sample.backend Sample.pair (earlier ++ turn :: later) world ∧
      turn.next.stages.map Stage.wait = [.reply (.round 5)] ∧ Reached (polledStates earlier) 5 := by
  have replayed : (Sample.pair.replay Sample.answers []
      (Sample.madeAt 0 (Sample.polls 5 ++ Sample.follows 5))).map (fun reached =>
      (reached.1.any fun turn => turn.next.stages.map Stage.wait = [.reply (.round 5)],
        reached.1.all fun turn => !turn.occasion.stages.isEmpty)) =
      some (true, true) := by decide +kernel
  obtain ⟨past, world, run, facts⟩ := Run.of_replay replayed
  simp only [Prod.mk.injEq] at facts
  obtain ⟨asked, taken⟩ := facts
  obtain ⟨turn, member, waits⟩ := List.any_eq_true.mp asked
  obtain ⟨earlier, later, rfl⟩ := List.append_of_mem member
  refine ⟨earlier, turn, later, world, run, of_decide_eq_true waits, ?_⟩
  -- All turns of the sample take tasks, so none of them is a call.
  have unasked : ∀ other ∈ earlier ++ turn :: later, ∀ tick,
      other.occasion ≠ .call (.ranking tick) :=
    fun other inside tick => uncalled_of_all taken other inside _
  cases next : turn.next with
  | wait stage =>
    have asks : stage.wait = .reply (.round 5) := by
      simpa [next, Next.stages] using waits
    exact ((unpublished_round_never_requested run unasked).1 _ _ _ stage 5 rfl next asks).2
  | done outcome => simp [next, Next.stages] at waits

end Scoreboard
