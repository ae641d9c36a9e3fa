import Scoreboard.Proofs.Relay.Attempts
import Scoreboard.Proofs.Relay.Documents

/-! Memoisation: a round that was fetched is kept, and never fetched for a later lookup. -/

namespace Scoreboard

/-- A task wants the round of a tick from the backend. -/
def Stage.seeks (tick : Tick) : Stage → Bool
  | .fetchingRound _ other _ | .pausingRound _ other _ _ => other = tick
  | _ => false

namespace Turn

/-- The lookup of a round that begins with a turn: what for, and for which tick. -/
def asked? (turn : Turn) : Option (RankingUse × Tick) :=
  match turn.occasion with
  | .call (.ranking tick) => some (.plain, tick)
  | .ready (.starting .follower) | .ready (.watching _) =>
    if turn.before.newestTick < 0 then none
    else some (.follow turn.before.bus.newestTick.version, turn.before.newestTick)
  | .ready (.awaitingTick tick) => some (.gameOver, tick)
  | .ready (.entering parts (.answer _ (.ranking tick))) =>
    -- A tick above the scoreboard is refused before any round is looked up.
    if 1 < parts ∨ turn.before.scoreboardTick < tick then none else some (.response, tick)
  | _ => none

/-- A lookup of the round of a tick begins. -/
def asks (tick : Tick) (turn : Turn) : Bool :=
  turn.asked?.any fun (_, other) => other = tick

/-- A lookup begins that does not find the round of a tick in the cache. -/
def misses (tick : Tick) (turn : Turn) : Bool :=
  turn.asks tick && (turn.before.rounds.get? tick).isNone

/-- The turn brings the round of a tick from the backend. -/
def fetches (tick : Tick) (turn : Turn) : Bool :=
  match turn.occasion with
  | .reply (.fetchingRound _ other _) reply =>
    other = tick && (reply.document (.round tick) .round).isOk
  | _ => false

/-- What a lookup of a round ends with in a turn, and for which tick. -/
def returned? (turn : Turn) : Option (Tick × Except ServiceError Snapshot) :=
  match turn.asked? with
  | some (_, tick) =>
    -- No tick is negative, so a lookup of one ends where it begins.
    if tick < 0 then some (tick, .error (.negativeTick tick)) else none
  | none =>
    match turn.occasion with
    | .ready (.entering parts (.settleRound _ tick snapshot)) =>
      if 1 < parts then none else some (tick, .ok snapshot)
    | .reply (.fetchingRound _ tick retry) reply =>
      match reply.document (.round tick) .round with
      | .ok _ => none
      | .error problem =>
        match (Endpoint.round tick).policy.afterFailure retry problem with
        | .pausing _ => none
        | .givenUp problem => some (tick, .error problem)
    | _ => none

variable {turn : Turn} {use : RankingUse} {tick : Tick}

/-- A turn that begins a lookup asks for the round, and does nothing else. -/
theorem result_of_asked? (asked : turn.asked? = some (use, tick)) :
    turn.result = turn.before.askRanking use tick := by
  unfold asked? at asked
  -- One case per kind of lookup: a call, the follower twice, the end of the game, and a request.
  split at asked
  · rename_i other occasion
    cases asked
    simp only [Turn.result, occasion, Relay.receive]
  · rename_i occasion
    split at asked
    · cases asked
    · rename_i counted
      cases asked
      simp only [Turn.result, occasion, Relay.resume, Relay.begin, Relay.followerLook, if_neg counted]
  · rename_i seen occasion
    split at asked
    · cases asked
    · rename_i counted
      cases asked
      simp only [Turn.result, occasion, Relay.resume, Relay.followerLook, if_neg counted]
  · rename_i other occasion
    cases asked
    simp only [Turn.result, occasion, Relay.resume]
  · rename_i parts request other occasion
    split at asked
    · cases asked
    · rename_i admitted
      cases asked
      rw [not_or] at admitted
      simp only [Turn.result, occasion, Relay.resume, if_neg admitted.1, Relay.perform,
        Relay.answerRoute, if_neg admitted.2]
  · cases asked

/-- Whoever asks for a round begins a lookup of it. -/
theorem asked?_of_asks (asks : turn.before.Asks turn.occasion use tick) :
    turn.asked? = some (use, tick) := by
  -- Each of the ways to ask is an occasion that begins a lookup.
  generalize occasion : turn.occasion = now at asks
  cases asks with
  | lookup tick => simp only [asked?, occasion]
  | follower stage counted follows =>
    rcases follows with rfl | ⟨seen, rfl⟩
    · simp only [asked?, occasion, if_neg counted]
    · simp only [asked?, occasion, if_neg counted]
  | gameOver tick reached => simp only [asked?, occasion]
  | request parts request tick published last =>
    have admitted : ¬ (1 < parts ∨ turn.before.scoreboardTick < tick) :=
      not_or.mpr ⟨last, Int64.not_lt.mpr published⟩
    simp only [asked?, occasion, if_neg admitted]

/-- A turn that fetches a round is a reply with that round in it. -/
theorem fetches_iff : turn.fetches tick = true ↔ ∃ use retry reply round,
    turn.occasion = .reply (.fetchingRound use tick retry) reply ∧
      reply.document (.round tick) .round = .ok round := by
  -- Only a reply with a round in it is one.
  unfold fetches
  constructor
  · intro fetched
    split at fetched
    · rename_i use other retry reply occasion
      rw [Bool.and_eq_true, decide_eq_true_eq] at fetched
      obtain ⟨rfl, served⟩ := fetched
      cases document : reply.document (.round other) .round with
      | ok round => exact ⟨use, retry, reply, round, occasion, document⟩
      | error problem => simp [document, Except.isOk, Except.toBool] at served
    · cases fetched
  · rintro ⟨use, retry, reply, round, occasion, served⟩
    simp [occasion, served, Except.isOk, Except.toBool]

/-- A round that is fetched is kept, and settled next. -/
theorem result_of_round {retry : Nat} {reply : Reply} {round : Round}
    (occasion : turn.occasion = .reply (.fetchingRound use tick retry) reply)
    (served : reply.document (.round tick) .round = .ok round) :
    turn.result = ((turn.before.storeRound tick round).1, .wait (.entering 1
      (.settleRound use tick (turn.before.storeRound tick round).2))) := by
  simp only [Turn.result, occasion, Relay.resumeWithReply, served]
  rfl

/-- A lookup that has got its round returns it in the turn in which that is settled. -/
theorem returned?_of_settling {backend : Backend} {snapshot : Snapshot} (due : turn.IsDue backend)
    (takes : turn.occasion.stages = [.entering 1 (.settleRound use tick snapshot)]) :
    turn.returned? = some (tick, .ok snapshot) ∧
      turn.next = (turn.before.finishRanking use tick (.ok snapshot)).2 := by
  -- The stage is the only one that settles, and nothing is asked for in it.
  have occasion := ready_of_takes due takes (by simp [Stage.wait])
  constructor
  · have unasked : turn.asked? = none := by simp only [asked?, occasion]
    simp [returned?, unasked, occasion]
  · rw [Turn.next, performs due takes]
    cases use <;> rfl

/-- A lookup ends with a tick that no round has, with a round, or with its last failure. -/
theorem returned?_cases {result : Except ServiceError Snapshot}
    (returned : turn.returned? = some (tick, result)) :
    (∃ use, turn.asked? = some (use, tick) ∧ tick < 0 ∧ result = .error (.negativeTick tick)) ∨
    (∃ parts use snapshot, turn.occasion = .ready (.entering parts (.settleRound use tick snapshot)) ∧
      ¬ 1 < parts ∧ result = .ok snapshot) ∨
    ∃ use retry reply failure problem,
      turn.occasion = .reply (.fetchingRound use tick retry) reply ∧
      reply.document (.round tick) .round = .error failure ∧
      (Endpoint.round tick).policy.afterFailure retry failure = .givenUp problem ∧
      result = .error problem := by
  -- The three branches are the three ways for a lookup to end.
  unfold returned? at returned
  split at returned
  · -- A lookup that has just begun ends only when its tick is negative.
    rename_i use other asked
    split at returned
    · rename_i negative
      cases returned
      exact .inl ⟨use, asked, negative, rfl⟩
    · cases returned
  · -- One under way ends with its round, or when there is no retry left.
    right
    split at returned
    · rename_i parts use other snapshot occasion
      split at returned
      · cases returned
      · rename_i last
        cases returned
        exact .inl ⟨parts, use, snapshot, occasion, last, rfl⟩
    · rename_i use other retry reply occasion
      split at returned
      · cases returned
      · rename_i failure failed
        split at returned
        · cases returned
        · rename_i problem spent
          cases returned
          exact .inr ⟨use, retry, reply, failure, problem, occasion, failed, spent, rfl⟩
    · cases returned

/-- A reply with the round ends no lookup: the round is settled first. -/
theorem returned?_of_round {retry : Nat} {reply : Reply} {round : Round}
    (occasion : turn.occasion = .reply (.fetchingRound use tick retry) reply)
    (served : reply.document (.round tick) .round = .ok round) : turn.returned? = none := by
  have unasked : turn.asked? = none := by simp only [asked?, occasion]
  simp only [returned?, unasked, occasion, served]

/-- The last failure ends a lookup. -/
theorem returned?_of_problem {retry : Nat} {reply : Reply} {problem : ApiError}
    (occasion : turn.occasion = .reply (.fetchingRound use tick retry) reply)
    (failed : reply.document (.round tick) .round = .error problem)
    (spent : retry = (Endpoint.round tick).policy.budget) :
    turn.returned? = some (tick, .error (.backendFailed ⟨retry, problem⟩)) := by
  have unasked : turn.asked? = none := by simp only [asked?, occasion]
  simp only [returned?, unasked, occasion, failed, RetryPolicy.afterFailure, spent,
    Nat.lt_irrefl, if_false]

/-- A turn that ends a lookup goes on to what the round was wanted for. -/
theorem next_of_returned? {result : Except ServiceError Snapshot}
    (returned : turn.returned? = some (tick, result)) :
    ∃ use, turn.next = (turn.before.finishRanking use tick result).2 := by
  -- Each way to end goes on with the result, whatever the round was wanted for.
  rcases returned?_cases returned with ⟨use, asked, negative, rfl⟩ |
    ⟨parts, use, snapshot, occasion, last, rfl⟩ |
    ⟨use, retry, reply, failure, problem, occasion, failed, spent, rfl⟩
  · exact ⟨use, by rw [Turn.next, result_of_asked? asked, Relay.askRanking, if_pos negative]⟩
  · refine ⟨use, ?_⟩
    simp only [Turn.next, Turn.result, occasion, Relay.resume, if_neg last, Relay.perform]
    cases use <;> rfl
  · refine ⟨use, ?_⟩
    simp only [Turn.next, Turn.result, occasion, Relay.resumeWithReply, failed,
      Relay.continueRanking, spent]

/-- A round is returned in a turn that looks at it. -/
theorem check?_of_returned? {snapshot : Snapshot}
    (returned : turn.returned? = some (tick, .ok snapshot)) :
    turn.check? = some (tick, snapshot) := by
  -- The other two ways to end return a failure.
  rcases returned?_cases returned with ⟨_, _, _, failed⟩ |
    ⟨parts, use, held, occasion, last, same⟩ | ⟨_, _, _, _, _, _, _, _, failed⟩
  · cases failed
  · cases same
    simp only [check?, occasion, Stage.check?, if_neg last]
  · cases failed

end Turn

/-- What becomes of a round is never another attempt to get one. -/
theorem Relay.finishRanking_seeks (relay : Relay) (use : RankingUse) (tick other : Tick)
    (result : Except ServiceError Snapshot) :
    (relay.finishRanking use tick result).2.stages.countP (Stage.seeks other) = 0 := by
  unfold finishRanking
  split <;> rfl

/-- A plain stage asks for no round. -/
theorem Stage.Plain.seeks {stage : Stage} (plain : stage.Plain) (tick : Tick) :
    stage.seeks tick = false := by
  -- The two stages that seek a round are not plain.
  cases stage with
  | fetchingRound use other retry => cases plain
  | pausingRound use other retry deadline => cases plain
  | _ => rfl

/-- A turn with a plain outcome seeks no round. -/
theorem Next.Plain.seeks {next : Next} (plain : next.Plain) (tick : Tick) :
    next.stages.countP (Stage.seeks tick) = 0 := by
  -- A plain stage seeks no round, and an ended task has no stage.
  cases next with
  | wait stage =>
    have silent : stage.seeks tick = false := Stage.Plain.seeks plain tick
    simp [Next.stages, silent]
  | done outcome => rfl

/-- A task seeks a round when it did so before, or looks the round up and misses it. -/
theorem Turn.Deed.seeks_le {turn : Turn} (deed : turn.Deed) (tick : Tick) :
    turn.next.stages.countP (Stage.seeks tick) ≤
      turn.occasion.stages.countP (Stage.seeks tick) + [turn].countP (Turn.misses tick) := by
  -- A turn that leaves its task elsewhere has nothing to account for.
  have elsewhere (none : turn.next.stages.countP (Stage.seeks tick) = 0) :
      turn.next.stages.countP (Stage.seeks tick) ≤
        turn.occasion.stages.countP (Stage.seeks tick) + [turn].countP (Turn.misses tick) :=
    none ▸ Nat.zero_le _
  cases deed with
  | goes goes after =>
    cases goes with
    | on plain => exact elsewhere (plain.seeks tick)
    | spawned task occasion next => exact elsewhere (next ▸ rfl)
    | queued parts step occasion next => exact elsewhere (next ▸ rfl)
    | awaits other occasion next => exact elsewhere (next ▸ rfl)
    | polls again reply response occasion answered next => exact elsewhere (next ▸ rfl)
    | weighs parts winners occasion next =>
      refine elsewhere ?_
      rw [next]
      split <;> rfl
    | asks use other asks next =>
      have asked := Turn.asked?_of_asks asks
      rcases turn.before.askRanking_cases use other with
        ⟨_, turned⟩ | ⟨_, snapshot, _, turned⟩ | ⟨_, missing, turned⟩
      · exact elsewhere (by rw [next, turned, Relay.finishRanking_seeks])
      · exact elsewhere (by rw [next, turned]; rfl)
      · -- A lookup that misses its round is what a task under way costs.
        rw [next, turned]
        by_cases same : other = tick
        · subst same
          have missed : turn.misses other = true := by
            simp [Turn.misses, Turn.asks, asked, missing]
          simp [Next.stages, Stage.seeks, missed]
        · simp [Next.stages, Stage.seeks, same]
    | retries use other retry deadline occasion next =>
      rw [next, occasion]
      exact Nat.le_add_right _ _
    | pauses use other retry again deadline reply occasion next =>
      rw [next, occasion]
      exact Nat.le_add_right _ _
    | givesUp use other retry reply problem occasion next =>
      exact elsewhere (next ▸ Relay.finishRanking_seeks _ use other tick _)
  | stores use other retry reply round occasion served after next => exact elsewhere (next ▸ rfl)
  | settles parts use other snapshot occasion last after next =>
    exact elsewhere (next ▸ Relay.finishRanking_seeks _ use other tick _)
  | names parts other round occasion last after next => exact elsewhere (next ▸ rfl)
  | keeps parts winners occasion last after next => exact elsewhere (next ▸ rfl)
  | plays parts winners occasion last after next => exact elsewhere (next ▸ rfl)
  | _ => exact elsewhere (Next.Plain.seeks ‹turn.next.Plain› tick)

/-- A new task seeks no round in front of its first turn. -/
theorem countP_seeks_starting (tasks : List NewTask) (tick : Tick) :
    (tasks.map Stage.starting).countP (Stage.seeks tick) = 0 := by
  -- A task that starts has not looked for anything yet.
  rw [List.countP_eq_zero]
  intro stage started
  obtain ⟨task, _, rfl⟩ := List.mem_map.mp started
  exact Bool.false_ne_true

/-- Whoever fetches a round was seeking it, and misses pay for everybody who seeks one. -/
theorem Turn.seeks_account {backend : Backend} {turn : Turn} (due : turn.IsDue backend)
    (tick : Tick) :
    [turn].countP (Turn.fetches tick) +
        (turn.next.stages ++ turn.after.startedStages).countP (Stage.seeks tick) ≤
      turn.occasion.stages.countP (Stage.seeks tick) + [turn].countP (Turn.misses tick) := by
  -- A turn that fetches is settled by itself, and any other one by its deed.
  rw [List.countP_append, Relay.startedStages, countP_seeks_starting, Nat.add_zero]
  by_cases fetched : turn.fetches tick = true
  · -- The task stops seeking in the turn in which it fetches the round.
    obtain ⟨use, retry, reply, round, occasion, served⟩ := Turn.fetches_iff.mp fetched
    have next : turn.next = .wait _ := congrArg Prod.snd (Turn.result_of_round occasion served)
    simp [next, occasion, fetched, Next.stages, Occasion.stages, Stage.seeks]
  · have silent : [turn].countP (Turn.fetches tick) = 0 := by simp [fetched]
    rw [silent, Nat.zero_add]
    exact (Turn.deed due).seeks_le tick

/-- A round that is kept stays so, and one that is fetched is kept. -/
theorem World.Step.keeps_round {backend : Backend} {world later : World} {turn : Turn}
    (step : world.Step backend turn later) {tick : Tick}
    (there : world.relay.rounds.get? tick ≠ none ∨ turn.fetches tick = true) :
    later.relay.rounds.get? tick ≠ none := by
  -- The deed of a turn keeps rounds, and the turn that fetches one stores it.
  have now : later.relay.rounds = turn.after.rounds := by rw [step.relay]; rfl
  rw [now]
  rw [← step.before] at there
  rcases there with kept | fetched
  · -- No turn takes a round away.
    rcases step.deed.deals with
      ⟨settled, held, _, after⟩ | ⟨use, stored, retry, reply, round, _, _, after, _⟩ |
      ⟨_, _, _, _, _, _, _, after⟩ | ⟨_, after⟩
    · rw [after, Relay.settleRound_get?]
      exact kept
    · rw [after, Relay.storeRound_get?]
      split
      · exact Option.some_ne_none _
      · exact kept
    · rw [after]
      exact kept
    · rw [show turn.after.rounds = turn.before.rounds from congrArg Prod.fst after]
      exact kept
  · obtain ⟨use, retry, reply, round, occasion, served⟩ := Turn.fetches_iff.mp fetched
    have after : turn.after = (turn.before.storeRound tick round).1 :=
      congrArg Prod.fst (Turn.result_of_round occasion served)
    rw [after, Relay.storeRound_get?, if_pos rfl]
    exact Option.some_ne_none _

/-- The turn is served the round of a tick. -/
def Turn.IsServed (backend : Backend) (turn : Turn) (tick : Tick) (round : Round) : Prop :=
  ∃ use retry reply, turn.occasion = .reply (.fetchingRound use tick retry) reply ∧
    backend (.round tick) reply ∧ reply.document (.round tick) .round = .ok round

/-- What is known of rounds from the turns that are served them. -/
def Knowledge.ofTurns (backend : Backend) (turns : List Turn) : Knowledge :=
  fun tick round => ∃ fetch ∈ turns, fetch.IsServed backend tick round

/-- A backend that gives only those replies which some turns have met. -/
def Backend.met (backend : Backend) (turns : List Turn) : Backend :=
  fun endpoint reply => backend endpoint reply ∧
    ∃ turn ∈ turns, ∃ stage, turn.occasion = .reply stage reply ∧ stage.wait = .reply endpoint

/-- Turns that were due are due with the backend that gives what they met. -/
theorem Backend.met_due {backend : Backend} {turns : List Turn}
    (due : ∀ turn ∈ turns, turn.IsDue backend) : ∀ turn ∈ turns, turn.IsDue (backend.met turns) := by
  -- Only a reply depends on the backend, and it is one of those met.
  intro turn member
  have before := due turn member
  unfold Turn.IsDue at before ⊢
  cases occasion : turn.occasion with
  | call call => trivial
  | ready stage => simpa only [occasion] using before
  | reply stage reply =>
    simp only [occasion] at before
    obtain ⟨endpoint, waits, gives⟩ := before
    exact ⟨endpoint, waits, gives, turn, member, stage, occasion, waits⟩

/-- Rounds that are in those replies are known from the turns. -/
theorem Backend.met_informs (backend : Backend) (turns : List Turn) :
    (backend.met turns).Informs (.ofTurns backend turns) := by
  intro tick reply round met served
  obtain ⟨gives, turn, member, stage, occasion, waits⟩ := met
  -- Only a task that fetches the round of this tick waits for such a reply.
  cases stage with
  | fetchingRound use other retry =>
    cases waits
    exact ⟨turn, member, use, retry, reply, occasion, gives, served⟩
  | _ => cases waits

/-- A lookup that has got its round returns it in its next turn. -/
theorem Strand.returns {backend : Backend} {turn : Turn} {own : List Turn} {next : Next}
    {use : RankingUse} {tick : Tick} {snapshot : Snapshot}
    (strand : Strand (.wait (.entering 1 (.settleRound use tick snapshot))) (turn :: own) next)
    (due : turn.IsDue backend) : turn.returned? = some (tick, .ok snapshot) ∧
      turn.next = (turn.before.finishRanking use tick (.ok snapshot)).2 := by
  obtain ⟨⟨_, waits, takes⟩, _⟩ := strand.uncons rfl
  cases waits
  exact Turn.returned?_of_settling due takes

section Lookups

variable {backend : Backend} {own : List Turn} {last : Turn} {next : Next} {use : RankingUse}
  {tick : Tick}

/-- Of the turns of a pending lookup only the last can return something. -/
theorem Turn.eq_last_of_returned? {turn : Turn} {result : Tick × Except ServiceError Snapshot}
    (pending : ∀ turn ∈ own, turn.returned? = none) (member : turn ∈ own ++ [last])
    (returned : turn.returned? = some result) : turn = last := by
  -- The turn is a pending one, or the last.
  rcases List.mem_append.mp member with early | late
  · rw [pending turn early] at returned
    cases returned
  · exact List.mem_singleton.mp late

/-- A lookup that misses its round returns what it fetches, or fails without any change. -/
theorem Strand.missed (due : ∀ turn ∈ own ++ [last], turn.IsDue backend)
    (strand : Strand (.wait ((Errand.round use tick).attempt 0)) (own ++ [last]) next)
    (pending : ∀ turn ∈ own, turn.returned? = none)
    {other : Tick} {result : Except ServiceError Snapshot}
    (returned : last.returned? = some (other, result)) :
    (∃ snapshot, last.returned? = some (tick, .ok snapshot) ∧
      last.next = (last.before.finishRanking use tick (.ok snapshot)).2) ∨
    ∃ problem, last.returned? = some (tick, .error problem) ∧
      last.next = (last.before.finishRanking use tick (.error problem)).2 ∧
      ∀ turn ∈ own ++ [last], turn.after = turn.before := by
  rcases strand.attempts due with
    ⟨stage, waits, attempts⟩ | ⟨tries, turn, rest, stage, parts, attempts, ends, behind⟩
  · -- As long as there is another attempt, nothing is returned.
    obtain ⟨use, ended⟩ := Turn.next_of_returned? returned
    have silent := last.before.finishRanking_seeks use other tick result
    rw [← ended, strand.next_of_last, waits] at silent
    rcases attempts.stands with ⟨rfl, _⟩ | ⟨deadline, rfl, _⟩
    · simp [Next.stages, Errand.attempt, Stage.seeks] at silent
    · simp [Next.stages, Errand.pause, Stage.seeks] at silent
  · have here : turn ∈ own ++ [last] := by simp [parts]
    cases ends with
    | brings reply occasion there =>
      obtain ⟨round, served⟩ := problemIn_eq_none.mp there
      have goesOn : turn.next = .wait _ := congrArg Prod.snd (Turn.result_of_round occasion served)
      cases rest with
      | nil =>
        -- The turn that brings the round is not yet the one that returns it.
        obtain ⟨_, same⟩ := List.append_inj' parts rfl
        obtain rfl := List.singleton_inj.mp same
        rw [Turn.returned?_of_round occasion served] at returned
        cases returned
      | cons settling rest =>
        rw [goesOn] at behind
        have inside : settling ∈ own ++ [last] := by simp [parts]
        have returns := behind.returns (due settling inside)
        obtain rfl := Turn.eq_last_of_returned? pending inside returns.1
        exact .inl ⟨_, returns⟩
    | givesUp reply problem occasion lost spent after goesOn =>
      have gave := Turn.returned?_of_problem occasion (problemIn_eq_some.mp lost) spent
      obtain rfl := Turn.eq_last_of_returned? pending here gave
      refine .inr ⟨_, gave, by rw [goesOn, spent]; rfl, ?_⟩
      -- The turn stands at the end, so nothing follows on it, and the others are attempts.
      rcases last_or_before parts with ⟨_, rfl, _⟩ | ⟨front, _, rfl⟩
      · exact attempts.unchanged_concat after
      · -- A turn before the last one returns nothing.
        rw [pending turn (by simp)] at gave
        cases gave

/-- The course of a lookup up to the turn in which it returns. -/
theorem Strand.lookup {ask : Turn} (due : ∀ turn ∈ own ++ [last], turn.IsDue backend)
    (asked : ask.asked? = some (use, tick)) (strand : Strand ask.next (own ++ [last]) next)
    (pending : ∀ turn ∈ ask :: own, turn.returned? = none)
    {other : Tick} {result : Except ServiceError Snapshot}
    (returned : last.returned? = some (other, result)) :
    other = tick ∧ last.next = (last.before.finishRanking use tick result).2 ∧
      ∀ problem, result = .error problem → ∀ turn ∈ ask :: (own ++ [last]),
        turn.after = turn.before := by
  -- The lookup missed, was found in the cache or was refused at once.
  obtain ⟨begun, pending⟩ := List.forall_mem_cons.mp pending
  have asks := Turn.result_of_asked? asked
  have first : ask.next = (ask.before.askRanking use tick).2 := congrArg Prod.snd asks
  rw [first] at strand
  rcases ask.before.askRanking_cases use tick with
    ⟨negative, turned⟩ | ⟨_, snapshot, _, turned⟩ | ⟨_, missing, turned⟩
  · -- A lookup of a negative tick has ended with its first turn.
    have ended : ask.returned? = some (tick, .error (.negativeTick tick)) := by
      simp only [Turn.returned?, asked, if_pos negative]
    rw [begun] at ended
    cases ended
  · -- A round in the cache is returned in the next turn.
    rw [turned] at strand
    obtain ⟨final, rest, parts⟩ := List.exists_cons_of_ne_nil (List.concat_ne_nil last own)
    have inside : final ∈ own ++ [last] := parts ▸ List.mem_cons_self
    rw [parts] at strand
    have returns := strand.returns (due final inside)
    obtain rfl := Turn.eq_last_of_returned? pending inside returns.1
    rw [returned] at returns
    cases returns.1
    exact ⟨rfl, returns.2, fun problem failed => by cases failed⟩
  · rw [turned] at strand
    rcases strand.missed due pending returned with
      ⟨snapshot, there, goesOn⟩ | ⟨problem, there, goesOn, unchanged⟩
    · rw [returned] at there
      cases there
      exact ⟨rfl, goesOn, fun problem failed => by cases failed⟩
    · rw [returned] at there
      cases there
      exact ⟨rfl, goesOn, fun _ _ => List.forall_mem_cons.mpr
        ⟨congrArg Prod.fst (asks.trans turned), unchanged⟩⟩

end Lookups

section Runs

variable {backend : Backend} {start world : World} {past : List Turn} {tick : Tick}
  {notificationInterval : Nat} {preferences : Preferences} {tasks : List NewTask}

/-- Once a round was fetched, it is in the cache. -/
theorem Run.round_kept (run : Run backend start past world)
    (fetched : past.any (Turn.fetches tick) = true) : world.relay.rounds.get? tick ≠ none := by
  -- The round was there before the last turn, or that has brought it.
  induction run with
  | begin => cases fetched
  | step run step ih =>
    rw [List.any_append, Bool.or_eq_true] at fetched
    rcases fetched with before | last
    · exact step.keeps_round (.inl (ih before))
    · exact step.keeps_round (.inr (by simpa using last))

/-- A turn that fetches a round is no lookup. -/
theorem Turn.misses_of_fetches {turn : Turn} (fetched : turn.fetches tick = true) :
    turn.misses tick = false := by
  obtain ⟨use, retry, reply, round, occasion, _⟩ := Turn.fetches_iff.mp fetched
  have unasked : turn.asked? = none := by simp only [Turn.asked?, occasion]
  simp [Turn.misses, Turn.asks, unasked]

/-- Lookups miss a round only before it is fetched for the first time. -/
theorem Run.misses_le (run : Run backend start past world) (tick : Tick) :
    past.countP (Turn.misses tick) ≤
      (past.takeWhile fun turn => !turn.fetches tick).countP (Turn.asks tick) := by
  -- The run is cut in front of the first fetch, and no lookup behind that misses.
  generalize before : past.takeWhile (fun turn => !turn.fetches tick) = unfetched
  generalize from_fetch : past.dropWhile (fun turn => !turn.fetches tick) = rest
  have parts : past = unfetched ++ rest := by
    rw [← before, ← from_fetch, List.takeWhile_append_dropWhile]
  have found : rest.countP (Turn.misses tick) = 0 := by
    cases rest with
    | nil => rfl
    | cons fetch later =>
      have fetched : fetch.fetches tick = true := by
        have stopped := List.head?_dropWhile_not (fun turn => !turn.fetches tick) past
        rw [from_fetch] at stopped
        simpa using stopped
      rw [List.countP_cons_of_neg (by rw [Turn.misses_of_fetches fetched]; exact Bool.false_ne_true),
        List.countP_eq_zero]
      -- Every turn behind the fetch finds the round in the cache.
      intro turn member missed
      obtain ⟨between, behind, rfl⟩ := List.append_of_mem member
      have split : past = (unfetched ++ fetch :: between) ++ turn :: behind := by simp [parts]
      obtain ⟨_, _, earlier, step⟩ := run.split split
      have met : (unfetched ++ fetch :: between).any (Turn.fetches tick) = true := by simp [fetched]
      have kept := earlier.round_kept met
      rw [← step.before] at kept
      rw [Turn.misses, Bool.and_eq_true, Option.isNone_iff_eq_none] at missed
      exact kept missed.2
  calc past.countP (Turn.misses tick)
      = unfetched.countP (Turn.misses tick) := by
        rw [parts, List.countP_append, found, Nat.add_zero]
    _ ≤ unfetched.countP (Turn.asks tick) := by
        apply List.countP_mono_left
        intro turn _ missed
        rw [Turn.misses, Bool.and_eq_true] at missed
        exact missed.1

/-- A lookup of a round that was fetched before finds it in the cache. -/
theorem Run.lookup_hits {turn : Turn} {earlier later : List Turn} {use : RankingUse}
    (run : Run backend start past world) (sound : start.Sound .nothing)
    (parts : past = earlier ++ turn :: later) (asked : turn.asked? = some (use, tick))
    (fetched : earlier.any (Turn.fetches tick) = true) :
    ∃ snapshot, turn.next = .wait (.entering 1 (.settleRound use tick snapshot)) := by
  -- The round was kept when it was fetched, and keeping is for good.
  obtain ⟨between, _, before, step⟩ := run.split parts
  have kept := before.round_kept fetched
  have nothing : backend.Informs .nothing := fun _ _ _ _ _ => trivial
  have counted := (before.sound nothing sound).relay
  rw [← step.before] at kept counted
  have next : turn.next = (turn.before.askRanking use tick).2 :=
    congrArg Prod.snd (Turn.result_of_asked? asked)
  rw [next]
  rcases turn.before.askRanking_cases use tick with
    ⟨negative, _⟩ | ⟨_, snapshot, _, hit⟩ | ⟨_, missing, _⟩
  · -- No round is kept for a negative tick.
    obtain ⟨snapshot, there⟩ := Option.ne_none_iff_exists'.mp kept
    exact absurd negative (Int64.not_lt.mpr (counted tick snapshot there).1)
  · exact ⟨snapshot, congrArg Prod.snd hit⟩
  · exact absurd missing kept

/-- Everything returned for a tick was served for it before. -/
theorem Run.returned_was_served {turn : Turn} {earlier later : List Turn} {snapshot : Snapshot}
    (run : Run backend (.initial notificationInterval preferences tasks) past world)
    (parts : past = earlier ++ turn :: later)
    (returned : turn.returned? = some (tick, .ok snapshot)) :
    Knowledge.ofTurns backend earlier tick snapshot.round := by
  obtain ⟨between, _, before, step⟩ := run.split parts
  -- The turns so far make a run with a backend that gives nothing but the replies they have met.
  have restricted := before.of_due (Backend.met_due fun other member => before.due_of_mem member)
  have sound := restricted.sound (Backend.met_informs backend earlier)
    (World.initial_sound _ notificationInterval preferences tasks)
  exact (step.check_sound sound (Turn.check?_of_returned? returned)).2

/--
A round that was fetched is handed out from the cache, and never fetched for a later lookup.

A lookup that begins after some fetch of its tick finds the round in the cache and returns it in its
next turn. So the round is fetched no more often than lookups of it have begun before the first
fetch. Every lookup returns for the tick it was asked for, and one that fails has changed nothing
whatever. Every round that is returned for a tick was served for that tick before.
-/
theorem rounds_are_memoised
    (run : Run backend (.initial notificationInterval preferences tasks) past world) :
    (∀ (earlier later : List Turn) (ask : Turn) (use : RankingUse) (tick : Tick),
      past = earlier ++ ask :: later → ask.asked? = some (use, tick) →
      earlier.any (Turn.fetches tick) = true →
        ∃ snapshot, ask.next = .wait (.entering 1 (.settleRound use tick snapshot)) ∧
          ∀ (turn : Turn) (own : List Turn) (next : Next), Strand ask.next (turn :: own) next →
            (turn :: own).Sublist later → turn.returned? = some (tick, .ok snapshot)) ∧
    (∀ tick, past.countP (Turn.fetches tick) ≤
      (past.takeWhile fun turn => !turn.fetches tick).countP (Turn.asks tick)) ∧
    (∀ (earlier later own : List Turn) (ask last : Turn) (next : Next) (use : RankingUse)
      (tick other : Tick) (result : Except ServiceError Snapshot),
      past = earlier ++ ask :: later → ask.asked? = some (use, tick) →
      Strand ask.next (own ++ [last]) next → (own ++ [last]).Sublist later →
      (∀ turn ∈ ask :: own, turn.returned? = none) → last.returned? = some (other, result) →
        other = tick ∧ last.next = (last.before.finishRanking use tick result).2 ∧
        ∀ problem, result = .error problem →
          ∀ turn ∈ ask :: (own ++ [last]), turn.after = turn.before) ∧
    ∀ (earlier later : List Turn) (turn : Turn) (tick : Tick) (snapshot : Snapshot),
      past = earlier ++ turn :: later → turn.returned? = some (tick, .ok snapshot) →
        ∃ fetch ∈ earlier, fetch.IsServed backend tick snapshot.round := by
  refine ⟨?_, ?_, ?_, ?_⟩
  · intro earlier later ask use tick parts asked fetched
    obtain ⟨snapshot, hit⟩ := run.lookup_hits
      (World.initial_sound _ notificationInterval preferences tasks) parts asked fetched
    refine ⟨snapshot, hit, ?_⟩
    intro turn own next strand inside
    rw [hit] at strand
    exact (strand.returns (run.due_of_sublist parts inside turn List.mem_cons_self)).1
  · intro tick
    -- No task seeks a round at first, so every fetch is paid for by a lookup that missed.
    have unsought : (World.initial notificationInterval preferences tasks).tasks.countP
        (Stage.seeks tick) = 0 := countP_seeks_starting tasks tick
    have paid := run.accounts fun turn member => Turn.seeks_account (run.due_of_mem member) tick
    have missed := run.misses_le tick
    omega
  · intro earlier later own ask last next use tick other result parts asked strand inside pending
      returned
    exact strand.lookup (run.due_of_sublist parts inside) asked pending returned
  · intro earlier later turn tick snapshot parts returned
    exact run.returned_was_served parts returned

end Runs

/-- Two lookups that both fetch the round of tick 7, and one that begins when they are over. -/
def Sample.thriceLookedUp : List (Moment × Choice) :=
  madeAt 0 ([.call (.ranking 7), .call (.ranking 7), .reply 1 (roundReply 7),
    .reply 0 (roundReply 7), .ready 1, .ready 0] ++ lookupKept 7)

set_option maxRecDepth 100000 in
/-- A round that two lookups have fetched is there for the third, and was served for its tick. -/
theorem third_lookup_finds_round :
    ∃ past world ask last found snapshot, Run Sample.backend Sample.start past world ∧
      past.countP (Turn.fetches 7) = 2 ∧ past.countP (Turn.asks 7) = 3 ∧
      past[6]? = some ask ∧ ask.next = .wait (.entering 1 (.settleRound .plain 7 found)) ∧
      past[7]? = some last ∧ last.returned? = some (7, .ok snapshot) ∧
      ∃ fetch ∈ past.take 7, fetch.IsServed Sample.backend 7 snapshot.round := by
  -- The run is replayed, and its seventh and eighth turns are those of the third lookup.
  have replayed : (Sample.start.replay Sample.answers [] Sample.thriceLookedUp).map (fun reached =>
      (reached.1.countP (Turn.fetches 7), reached.1.countP (Turn.asks 7),
        (reached.1.take 6).any (Turn.fetches 7),
        (reached.1[6]?.bind Turn.asked?).any fun asked => asked = (.plain, 7),
        (reached.1[7]?.bind Turn.returned?).any fun returned =>
          returned.1 = 7 && returned.2.isOk)) =
      some (2, 3, true, true, true) := by decide +kernel
  obtain ⟨past, world, run, facts⟩ := Run.of_replay replayed
  simp only [Prod.mk.injEq] at facts
  obtain ⟨fetches, asks, fetched, asked, returned⟩ := facts
  obtain ⟨hits, _, _, served⟩ := rounds_are_memoised run
  obtain ⟨_, asked, same⟩ := (Option.any_eq_true _ _).mp asked
  obtain ⟨ask, here, asked⟩ := Option.bind_eq_some_iff.mp (of_decide_eq_true same ▸ asked)
  obtain ⟨found, hit, _⟩ := hits _ _ ask .plain 7 (split_at here) asked fetched
  cases ended : past[7]?.bind Turn.returned? with
  | none => simp [ended] at returned
  | some result =>
    obtain ⟨last, there, gave⟩ := Option.bind_eq_some_iff.mp ended
    obtain ⟨tick, result⟩ := result
    cases result with
    | error problem => simp [ended, Except.isOk, Except.toBool] at returned
    | ok snapshot =>
      obtain rfl : tick = 7 := by simpa [ended, Except.isOk, Except.toBool] using returned
      exact ⟨past, world, ask, last, found, snapshot, run, fetches, asks, here, hit, there, gave,
        served _ _ last 7 snapshot (split_at there) gave⟩

end Scoreboard
