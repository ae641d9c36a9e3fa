import Scoreboard.Proofs.Ranking.Alignment
import Scoreboard.Proofs.Ranking.Processing

/-! How far the history of a team reaches while each next tick is processed, and what it answers. -/

namespace Scoreboard

/-- A round that is processed, behind the round of the tick before. -/
structure Progress where
  tick : Tick
  previous : Round
  round : Round

/-- What a turn processes, nothing in most turns. -/
def Turn.progress? (turn : Turn) : Option Progress := do
  let tick ← turn.processed?
  let (_, snapshot) ← turn.check?
  let previous ← turn.before.rounds.get? (tick - 1)
  return ⟨tick, previous.round, snapshot.round⟩

/-- The newest tick that has been processed, or a later one from which the ticks are counted. -/
def Relay.reached (relay : Relay) (known : Tick) : Int :=
  max known.toInt relay.rounds.processed.toInt

/-- The history of a team that is kept has the points of a tick. -/
def Relay.Covers (relay : Relay) (team : TeamId) (tick : Int) : Prop :=
  ∃ covered ∈ relay.histories.coveredTicks team, tick < covered

/-- A round leaves no tick out, has the services of the one before, and lists a team with all. -/
structure Progress.Follows (progress : Progress) (team : TeamId) (reached : Int) : Prop where
  next : progress.tick.toInt ≤ reached + 1
  unchanged : servicesChanged progress.previous progress.round = false
  listed : ∃ rank ∈ progress.round.rankOf? team,
    rank.services.length = progress.round.services.length

/-- What a turn processes follows what has been reached. -/
def Turn.KeepsUp (turn : Turn) (team : TeamId) (known : Tick) : Prop :=
  ∀ progress ∈ turn.progress?, progress.Follows team (turn.before.reached known)

/-- A round that a turn processes carries the tick that it is processed as. -/
def Turn.Dated (turn : Turn) : Prop :=
  ∀ progress ∈ turn.progress?, progress.round.tick = progress.tick

/-- A round that a turn processes has services. -/
def Turn.Served (turn : Turn) : Prop :=
  ∀ progress ∈ turn.progress?, progress.round.services ≠ []

/-- A history that a turn is told covers what has been reached. -/
def Turn.UpToDate (turn : Turn) (team : TeamId) (known : Tick) : Prop :=
  ∀ covered ∈ (turn.told? team).bind HistoryCache.firstLength, turn.before.reached known < covered

/-- A turn carries the history of a team on as the game goes on, or leaves it alone. -/
structure Turn.Sustains (turn : Turn) (team : TeamId) (known : Tick) : Prop where
  keepsUp : turn.KeepsUp team known
  dated : turn.Dated
  served : turn.Served
  upToDate : turn.UpToDate team known

/-- The use and the team of the history that a turn looks up, none for any other turn. -/
def Turn.historyLook? (turn : Turn) : Option (HistoryUse × TeamId) :=
  match turn.occasion with
  | .ready (.entering parts (.lookUpHistory use team)) =>
    if 1 < parts then none else some (use, team)
  | _ => none

/-- A turn answers with the history that is kept, and asks for nothing. -/
def Turn.HandsOut (turn : Turn) (use : HistoryUse) (team : TeamId) : Prop :=
  ∃ history, turn.before.histories.get? team = some history ∧
    turn.result = (turn.before, .done (use.outcome team (.ok history)))

section Instances

variable (progress : Progress) (turn : Turn) (team : TeamId) (known : Tick) (tick : Int)

instance (relay : Relay) : Decidable (relay.Covers team tick) :=
  inferInstanceAs (Decidable (∃ covered ∈ relay.histories.coveredTicks team, tick < (covered : Int)))

instance : Decidable (progress.Follows team tick) :=
  decidable_of_iff (_ ∧ _ ∧ ∃ rank ∈ progress.round.rankOf? team, _)
    ⟨fun parts => ⟨parts.1, parts.2.1, parts.2.2⟩,
      fun follows => ⟨follows.next, follows.unchanged, follows.listed⟩⟩

instance : Decidable (turn.KeepsUp team known) :=
  inferInstanceAs (Decidable (∀ progress ∈ turn.progress?, _))

instance : Decidable turn.Dated :=
  inferInstanceAs (Decidable (∀ progress ∈ turn.progress?, _))

instance : Decidable turn.Served :=
  inferInstanceAs (Decidable (∀ progress ∈ turn.progress?, progress.round.services ≠ []))

instance : Decidable (turn.UpToDate team known) :=
  inferInstanceAs (Decidable (∀ covered ∈ (turn.told? team).bind HistoryCache.firstLength, _))

instance : Decidable (turn.Sustains team known) :=
  decidable_of_iff (_ ∧ _ ∧ _ ∧ _)
    ⟨fun parts => ⟨parts.1, parts.2.1, parts.2.2.1, parts.2.2.2⟩,
      fun sustains => ⟨sustains.keepsUp, sustains.dated, sustains.served, sustains.upToDate⟩⟩

end Instances

section Reach

variable {relay : Relay} {turn : Turn} {team : TeamId} {known : Tick}

/-- A round shortens no history, and the one behind its last tick makes it longer by that tick. -/
theorem HistoryCache.coveredTicks_extend {cache : HistoryCache} {covered : Nat}
    (covers : cache.coveredTicks team = some covered) (round : Round) :
    ∃ more, (cache.extend round).coveredTicks team = some more ∧ covered ≤ more ∧
      ∀ rank, round.rankOf? team = some rank → rank.services ≠ [] →
        (covered : Int) = round.tick.toInt → more = covered + 1 := by
  -- Behind the round, the history is the one that the round made of it, or as it was.
  obtain ⟨history, held, first⟩ := Option.bind_eq_some_iff.mp covers
  have extended : (cache.extend round).coveredTicks team =
      firstLength ((extension? round team history).getD history) := by
    rw [coveredTicks, get?_extend, held]
    rfl
  rw [extended]
  cases carried : extension? round team history with
  | none =>
    refine ⟨covered, first, Nat.le_refl _, fun rank ranked _ next => ?_⟩
    -- A round right behind the history would have carried it on.
    have continues : round.Continues team history := ⟨⟨covered, first, next⟩, rank, ranked⟩
    rw [extension?_of_continues continues ranked] at carried
    cases carried
  | some longer =>
    obtain ⟨more, length, grown⟩ := (GoesOn.of_extension carried).firstLength first
    refine ⟨more, length, grown, fun rank ranked full next => ?_⟩
    -- The rank has a result for the first series, which gets one more point.
    have continues : round.Continues team history := ⟨⟨covered, first, next⟩, rank, ranked⟩
    rw [extension?_of_continues continues ranked] at carried
    cases carried
    rw [(lengthens_appendTotals rank history).firstLength first, if_neg full] at length
    exact (Option.some.inj length).symm

/-- What has been reached stays so as long as no round is processed. -/
theorem Relay.Covers.of_same {after : Relay} (covers : relay.Covers team (relay.reached known))
    (histories : after.histories.get? team = relay.histories.get? team)
    (processed : after.rounds.processed = relay.rounds.processed) :
    after.Covers team (after.reached known) := by
  rw [Covers, HistoryCache.coveredTicks, histories, reached, processed]
  exact covers

/-- A turn that processes a round carries the history of the team on to its tick. -/
theorem Turn.Sustains.covers_processed {tick : Tick} {snapshot previous : Snapshot}
    (sustains : turn.Sustains team known) (looked : turn.check? = some (tick, snapshot))
    (follows : turn.before.rounds.get? (tick - 1) = some previous)
    (newer : turn.before.rounds.processed < tick) (processed : turn.processed? = some tick)
    (after : turn.after = { turn.before with rounds := turn.before.rounds.claim tick }.processRound
      previous.round snapshot.round)
    (covers : turn.before.Covers team (turn.before.reached known)) :
    turn.after.Covers team (turn.after.reached known) := by
  have progress : turn.progress? = some ⟨tick, previous.round, snapshot.round⟩ := by
    simp [Turn.progress?, processed, looked, follows]
  obtain ⟨next, unchanged, rank, ranked, results⟩ := sustains.keepsUp _ progress
  have dated := sustains.dated _ progress
  have served := sustains.served _ progress
  dsimp only at next unchanged ranked results dated served
  -- There are services, so the rank of the team has results.
  have full : rank.services ≠ [] := by
    intro none
    rw [none] at results
    exact served (List.length_eq_zero_iff.mp results.symm)
  obtain ⟨covered, held, above⟩ := covers
  obtain ⟨more, carried, grown, exact⟩ := HistoryCache.coveredTicks_extend held snapshot.round
  -- No history is dropped, since the services are the same.
  have histories : turn.after.histories = turn.before.histories.extend snapshot.round := by
    rw [after, Relay.processRound_histories, unchanged]
    rfl
  have raised : turn.after.reached known = max known.toInt tick.toInt := by
    rw [Relay.reached, after, Relay.processRound_rounds]
    exact congrArg (fun tick : Tick => max known.toInt tick.toInt) (RoundCache.claim_processed newer)
  refine ⟨more, histories ▸ carried, ?_⟩
  rw [raised]
  have before : known.toInt < covered := by
    rw [Relay.reached] at above
    omega
  -- Either the history has the tick already, or ends right before it and gets it.
  by_cases inside : tick.toInt < covered
  · omega
  · have level : (covered : Int) = tick.toInt := by omega
    have one := exact rank ranked full (dated ▸ level)
    omega

/-- A turn that sustains a history leaves it reaching as far as the game has. -/
theorem Turn.Sustains.covers (sustains : turn.Sustains team known) (deed : turn.Deed)
    (covers : turn.before.Covers team (turn.before.reached known)) :
    turn.after.Covers team (turn.after.reached known) := by
  cases deed.deals.processing with
  | done tick snapshot previous looked newest follows newer processed after =>
    exact sustains.covers_processed looked follows newer processed after covers
  | none processed same idle =>
    -- Without a round, the history changes only where another one is told.
    cases deed.deals with
    | settling tick snapshot looked after =>
      have unchanged := (idle tick snapshot looked).1
      exact covers.of_same (by rw [unchanged]) same
    | storing use tick retry reply round occasion served after next =>
      exact covers.of_same (by rw [after]; rfl) same
    | filing use other retry reply history occasion served after =>
      have put : turn.after.histories.get? team =
          if other = team ∧ history.points ≠ [] then some history.points
          else turn.before.histories.get? team := by
        rw [after]
        exact HistoryCache.get?_put team history.points
      -- An empty history is not put anywhere, and any other one is long enough.
      by_cases own : other = team ∧ history.points ≠ []
      · rw [if_pos own] at put
        obtain ⟨rfl, full⟩ := own
        obtain ⟨series, rest, points⟩ := List.exists_cons_of_ne_nil full
        have length : HistoryCache.firstLength history.points = some series.length := by
          rw [points]
          rfl
        have told : turn.told? other = some history.points := by
          simp [Turn.told?, occasion, served, Except.toOption]
        have above := sustains.upToDate series.length (by rw [told]; exact length)
        refine ⟨series.length, ?_, ?_⟩
        · rw [HistoryCache.coveredTicks, put]
          exact length
        · rw [Relay.reached, same]
          exact above
      · rw [if_neg own] at put
        exact covers.of_same put same
    | aside unchecked after =>
      have histories : turn.after.histories = turn.before.histories := congrArg Prod.snd after
      exact covers.of_same (by rw [histories]) same

/-- As long as every turn sustains a history, it reaches as far as the game has. -/
theorem Run.covers {backend : Backend} {world later : World} {since : List Turn}
    (run : Run backend world since later)
    (sustained : ∀ between ∈ since, between.Sustains team known)
    (covers : world.relay.Covers team (world.relay.reached known)) :
    later.relay.Covers team (later.relay.reached known) := by
  -- The induction adds one turn at the end, whose deed keeps what the turns before have reached.
  induction run with
  | begin => exact covers
  | @step past between later turn run step ih =>
    have before := ih fun other member => sustained other (List.mem_append_left _ member)
    rw [← step.before] at before
    rw [step.relay]
    exact (sustained turn (by simp)).covers step.deed before

end Reach

section Answers

variable {relay : Relay} {turn : Turn} {use : HistoryUse} {team : TeamId}

/-- A history answers for the current tick if it covers that, and is asked for otherwise. -/
theorem Relay.lookUpHistory_cases (relay : Relay) (use : HistoryUse) (team : TeamId) :
    (relay.Covers team relay.live.current.currentTick.toInt ∧
      ∃ history, relay.histories.get? team = some history ∧
        relay.lookUpHistory use team = (relay, .done (use.outcome team (.ok history)))) ∨
    (¬ relay.Covers team relay.live.current.currentTick.toInt ∧
      relay.lookUpHistory use team = (relay, .wait (.fetchingHistory use team 0))) := by
  unfold lookUpHistory cachedHistory? Covers
  -- There is no history, or one that covers the current tick, or one that does not.
  cases covers : relay.histories.coveredTicks team with
  | none => exact .inr ⟨by simp, rfl⟩
  | some covered =>
    obtain ⟨history, held, _⟩ := Option.bind_eq_some_iff.mp covers
    by_cases above : relay.live.current.currentTick.toInt < covered
    · exact .inl ⟨⟨covered, rfl, above⟩, history, held, by simp only [if_pos above, held]⟩
    · exact .inr ⟨by simpa using above, by simp only [if_neg above]⟩

/-- A look at a history does what looking it up does. -/
theorem Turn.result_of_historyLook? (looks : turn.historyLook? = some (use, team)) :
    turn.result = turn.before.lookUpHistory use team := by
  -- Only the step that looks a history up is one, behind its last wait.
  unfold historyLook? at looks
  split at looks
  · rename_i parts other asked occasion
    split at looks
    · cases looks
    · rename_i last
      cases looks
      simp only [Turn.result, occasion, Relay.resume, if_neg last, Relay.perform]
  · cases looks

/--
A history that covers the scoreboard answers for it as long as each next tick is processed.

From any world on, while the rounds that are processed follow one another and no shorter history is
told, the history of a team reaches the newest processed tick. While that is the tick of the
scoreboard, a look-up asks the backend for nothing if the current tick is no later. If it is later,
the history has to cover it too.
-/
theorem kept_up_history_answers {backend : Backend} {world later last : World} {since : List Turn}
    (covers : world.relay.Covers team world.relay.scoreboardTick.toInt)
    (fresh : world.relay.rounds.processed ≤ world.relay.scoreboardTick)
    (run : Run backend world since later)
    (sustained : ∀ between ∈ since, between.Sustains team world.relay.scoreboardTick)
    (step : later.Step backend turn last) (looks : turn.historyLook? = some (use, team))
    (newest : later.relay.scoreboardTick = later.relay.rounds.processed) :
    (later.relay.live.current.currentTick ≤ later.relay.scoreboardTick →
      turn.HandsOut use team) ∧
    (later.relay.scoreboardTick < later.relay.live.current.currentTick →
      if later.relay.Covers team later.relay.live.current.currentTick.toInt then
        turn.HandsOut use team
      else turn.result = (turn.before, .wait (.fetchingHistory use team 0))) := by
  -- In front of the first turn, what has been reached is the tick of the scoreboard.
  have start : world.relay.reached world.relay.scoreboardTick = world.relay.scoreboardTick.toInt :=
    Int.max_eq_left (Int64.le_iff_toInt_le.mp fresh)
  obtain ⟨covered, held, above⟩ := run.covers sustained (start.symm ▸ covers)
  rw [← step.before] at held above newest ⊢
  rw [Turn.HandsOut, Turn.result_of_historyLook? looks]
  rcases turn.before.lookUpHistory_cases use team with
    ⟨enough, history, kept, answered⟩ | ⟨short, asked⟩
  · have handsOut : ∃ history, turn.before.histories.get? team = some history ∧
        turn.before.lookUpHistory use team =
          (turn.before, .done (use.outcome team (.ok history))) := ⟨history, kept, answered⟩
    exact ⟨fun _ => handsOut, fun _ => by rwa [if_pos enough]⟩
  · refine ⟨fun level => absurd ⟨covered, held, ?_⟩ short, fun _ => by rwa [if_neg short]⟩
    -- The current tick is no later than the newest processed one, which the history has.
    have current := Int64.le_iff_toInt_le.mp level
    rw [newest] at current
    rw [Relay.reached] at above
    omega

end Answers

/--
A history that was kept up is asked for once more.

It covers a scoreboard, and every next tick is processed up to the one that the scoreboard has when
the history is looked up, at which the current tick is so many ticks ahead.
-/
structure Refetch (team : TeamId) (known : Tick) (ahead : Int) (world : World) (since : List Turn)
    (later : World) (turn : Turn) : Prop where
  begins : world.relay.scoreboardTick = known
  covers : world.relay.Covers team known.toInt
  fresh : world.relay.rounds.processed ≤ known
  keepsUp : ∀ between ∈ since, between.KeepsUp team known
  newest : later.relay.scoreboardTick = later.relay.rounds.processed
  ahead : later.relay.live.current.currentTick.toInt = later.relay.scoreboardTick.toInt + ahead
  looks : turn.historyLook? = some (.plain, team)
  asks : turn.asksFor team = true

instance (team : TeamId) (known : Tick) (ahead : Int) (world : World) (since : List Turn)
    (later : World) (turn : Turn) : Decidable (Refetch team known ahead world since later turn) :=
  decidable_of_iff (_ ∧ _ ∧ _ ∧ _ ∧ _ ∧ _ ∧ _ ∧ _)
    ⟨fun ⟨begins, covers, fresh, keepsUp, newest, ahead, looks, asks⟩ =>
      ⟨begins, covers, fresh, keepsUp, newest, ahead, looks, asks⟩,
      fun ⟨begins, covers, fresh, keepsUp, newest, ahead, looks, asks⟩ =>
        ⟨begins, covers, fresh, keepsUp, newest, ahead, looks, asks⟩⟩

namespace Sample

/-- Some run of the sample game has a history asked for once more, though its turns are steady. -/
def Refetched (answers : Endpoint → Reply → Bool) (ahead : Int) (steady : Turn → Prop) : Prop :=
  ∃ past world since later turn last,
    Run (fun endpoint reply => answers endpoint reply = true) start past world ∧
      Run (fun endpoint reply => answers endpoint reply = true) world since later ∧
      later.Step (fun endpoint reply => answers endpoint reply = true) turn last ∧
      Refetch 3 5 ahead world since later turn ∧ ∀ between ∈ since, steady between

/-- Choices up to a first world and on to a second one, at which one more choice is made. -/
def reach (answers : Endpoint → Reply → Bool) (before behind : List Choice) (choice : Choice) :
    Option (World × List Turn × World × Turn) := do
  let (_, world) ← start.replay answers [] (madeAt 0 before)
  let (since, later) ← world.replay answers [] (madeAt 0 behind)
  let (turn, _) ← later.next? answers ⟨0, 0⟩ choice
  return (world, since, later, turn)

/-- What choices reach are worlds of runs, and a step from the second one. -/
theorem reach_spec {answers : Endpoint → Reply → Bool} {before behind : List Choice}
    {choice : Choice} {world later : World} {since : List Turn} {turn : Turn}
    (reached : reach answers before behind choice = some (world, since, later, turn)) :
    ∃ past last, Run (fun endpoint reply => answers endpoint reply = true) start past world ∧
      Run (fun endpoint reply => answers endpoint reply = true) world since later ∧
      later.Step (fun endpoint reply => answers endpoint reply = true) turn last := by
  -- The choices are replayed in two parts, and the last one is a step.
  simp only [reach, Option.bind_eq_bind, Option.bind_eq_some_iff, Prod.exists] at reached
  obtain ⟨past, first, replayed, since', second, replayed', turn', last, next, built⟩ := reached
  cases built
  exact ⟨past, last, Run.begin.replay replayed, Run.begin.replay replayed',
    World.step_of_next? next⟩

/-- A look-up that choices reach. -/
theorem Refetched.of_reach {answers : Endpoint → Reply → Bool} {ahead : Int} {steady : Turn → Prop}
    [DecidablePred steady] (before behind : List Choice) (choice : Choice)
    (checked : (reach answers before behind choice).any (fun (world, since, later, turn) =>
      decide (Refetch 3 5 ahead world since later turn ∧
        ∀ between ∈ since, steady between)) = true) : Refetched answers ahead steady := by
  -- What was checked of the choices holds of the world and the turn that they reach.
  obtain ⟨⟨world, since, later, turn⟩, reached, facts⟩ := (Option.any_eq_true _ _).mp checked
  obtain ⟨past, last, run, behind, step⟩ := reach_spec reached
  obtain ⟨refetch, all⟩ := of_decide_eq_true facts
  exact ⟨past, world, since, later, turn, last, run, behind, step, refetch, all⟩

/-- The history of the team up to tick 5 is told, and tick 5 is the newest one. -/
def warmHistory : List Choice :=
  poll 5 ++ lookup 5 ++ tellHistory historyReply

/-- A lookup of a round by itself, for which the backend gives a reply. -/
def lookupServed (tick : Tick) (reply : Reply) : List Choice :=
  [.call (.ranking tick), .reply 0 reply, .ready 0]

/-- A reply with a round that carries some tick and lists the team with all services. -/
def servedReply (tick : Tick) (services : List Service) : Reply :=
  .answered 200 none <| some <| writeObject
    [writeMember "tick" (Codec.int64.write tick),
      writeMember "services" ((Codec.list .service).write services),
      writeMember "scoreboard" ('[' :: rankText services ++ [']'])]

end Sample

set_option maxRecDepth 100000 in
/--
A history that was kept up is asked for once more when the current tick is ahead of the scoreboard.

It also is when a late answer has put a shorter one in its place, and when the round that was
processed carries another tick, or lists no services.
-/
theorem kept_up_history_asked_again :
    Sample.Refetched Sample.answers 1 (fun turn => turn.Sustains 3 5) ∧
    Sample.Refetched Sample.answers 0 (fun turn => turn.Dated ∧ turn.Served) ∧
    Sample.Refetched Sample.anyAnswer 0 (fun turn => turn.Served ∧ turn.UpToDate 3 5) ∧
    Sample.Refetched Sample.anyAnswer 0 (fun turn => turn.Dated ∧ turn.UpToDate 3 5) := by
  -- Each part leaves one of the conditions out, and has a run of its own.
  refine ⟨?_, ?_, ?_, ?_⟩
  · -- Tick 7 is played while tick 6 is the newest one.
    exact .of_reach Sample.warmHistory
      (Sample.poll 6 ++ Sample.lookup 6 ++ Sample.pollBehind 6 ++ [.call (.history 3)]) (.ready 0)
      (by decide +kernel)
  · -- The history was asked for before tick 6 was processed, and is told behind that.
    exact .of_reach Sample.warmHistory
      (Sample.pollBehind 5 ++ [.call (.history 3), .ready 0, .call .poll,
        .reply 1 (Sample.stateReply 6), .ready 1, .call (.ranking 6),
        .reply 1 (Sample.roundReply 6), .ready 1, .reply 0 Sample.historyReply,
        .call (.history 3)]) (.ready 0) (by decide +kernel)
  · -- The round of tick 6 says that it is of tick 7.
    exact .of_reach Sample.warmHistory
      (Sample.poll 6 ++ Sample.lookupServed 6 (Sample.servedReply 7 (Sample.services 6)) ++
        [.call (.history 3)]) (.ready 0) (by decide +kernel)
  · -- Neither tick 5 nor tick 6 has any services, though the history that is told does.
    exact .of_reach
      (Sample.poll 5 ++ Sample.lookupServed 5 (Sample.servedReply 5 []) ++
        Sample.tellHistory Sample.historyReply)
      (Sample.poll 6 ++ Sample.lookupServed 6 (Sample.servedReply 6 []) ++ [.call (.history 3)])
      (.ready 0) (by decide +kernel)

set_option maxRecDepth 100000 in
/-- A history that was told up to tick 5 answers at tick 6, which carried it on. -/
theorem carried_history_answers :
    ∃ past world since later turn last, Run Sample.backend Sample.start past world ∧
      Run Sample.backend world since later ∧ later.Step Sample.backend turn last ∧
      processedTicks since = [6] ∧ turn.historyLook? = some (.plain, 3) ∧
      turn.HandsOut .plain 3 := by
  -- The conditions are checked by evaluation, and the theorem says what follows.
  have checked : (Sample.reach Sample.answers Sample.warmHistory
      (Sample.poll 6 ++ Sample.lookup 6 ++ [.call (.history 3)]) (.ready 0)).any
      (fun (world, since, later, turn) => decide (
        world.relay.Covers 3 world.relay.scoreboardTick.toInt ∧
        world.relay.rounds.processed ≤ world.relay.scoreboardTick ∧
        (∀ between ∈ since, between.Sustains 3 world.relay.scoreboardTick) ∧
        turn.historyLook? = some (.plain, 3) ∧
        later.relay.scoreboardTick = later.relay.rounds.processed ∧
        later.relay.live.current.currentTick ≤ later.relay.scoreboardTick ∧
        processedTicks since = [6])) = true := by decide +kernel
  obtain ⟨⟨world, since, later, turn⟩, reached, facts⟩ := (Option.any_eq_true _ _).mp checked
  obtain ⟨past, last, run, behind, step⟩ := Sample.reach_spec reached
  obtain ⟨covers, fresh, sustained, looks, newest, level, processed⟩ := of_decide_eq_true facts
  have handsOut := (kept_up_history_answers covers fresh behind sustained step looks newest).1 level
  exact ⟨past, world, since, later, turn, last, run, behind, step, processed, looks, handsOut⟩

end Scoreboard
