import Scoreboard.Proofs.Relay.Documents

/-! Each tick is processed once at most, by the first look at its round that finds it newest. -/

namespace Scoreboard

/-- The tick that a turn processes, to which the newest processed tick rises. -/
def Turn.processed? (turn : Turn) : Option Tick :=
  if turn.before.rounds.processed < turn.after.rounds.processed then
    some turn.after.rounds.processed
  else none

/-- The ticks that turns process, in the order of the turns. -/
def processedTicks (past : List Turn) : List Tick :=
  past.filterMap Turn.processed?

/--
A look at a round calls for its processing, given the turns before it.

The tick has to be the newest one, the round before has to be there, and no tick from this one on
may have been processed.
-/
structure Turn.Warrants (turn : Turn) (earlier : List Turn) (tick : Tick) : Prop where
  looks : ∃ snapshot, turn.check? = some (tick, snapshot)
  newest : turn.before.scoreboardTick = tick
  follows : turn.before.rounds.contains (tick - 1) = true
  fresh : ∀ other ∈ processedTicks earlier, other < tick

/--
A turn processes the round of a tick, which follows on the round before.

Its tick is the newest that was processed, and its first bloods are put on the bus. The histories of
another list of services go, and those that stay are continued with the round.
-/
structure Turn.Processes (turn : Turn) (tick : Tick) (previous round : Round) : Prop where
  newest : turn.after.rounds.processed = tick
  tells : turn.events = detectFirstBloods previous round
  bus : turn.after.bus = (detectFirstBloods previous round).foldl EventBus.emit turn.before.bus
  histories : turn.after.histories =
    (if servicesChanged previous round then .initial else turn.before.histories).extend round
  /-- The rounds themselves stay as they are, and so do the game and what the dashboards see. -/
  others : turn.after.rounds.rounds = turn.before.rounds.rounds ∧
    turn.after.live = turn.before.live ∧ turn.after.hub = turn.before.hub ∧
    turn.after.overlay = turn.before.overlay

/-- The newest processed tick of a relay is the last one that the turns of its past processed. -/
structure Watermark (past : List Turn) (relay : Relay) : Prop where
  ascending : (processedTicks past).Pairwise (· < ·)
  bounded : ∀ tick ∈ processedTicks past, tick ≤ relay.rounds.processed
  reached : relay.rounds.processed = -1 ∨ relay.rounds.processed ∈ processedTicks past

/-- The last turn adds the tick that it processes, if it processes one. -/
@[simp] theorem processedTicks_snoc (past : List Turn) (turn : Turn) :
    processedTicks (past ++ [turn]) = processedTicks past ++ turn.processed?.toList := by
  cases processed : turn.processed? <;> simp [processedTicks, processed]

/-- A round is contained in the cache exactly when it can be had from there. -/
theorem RoundCache.contains_iff {cache : RoundCache} {tick : Tick} :
    cache.contains tick = true ↔ ∃ snapshot, cache.get? tick = some snapshot :=
  Option.isSome_iff_exists

/-- A newer tick that is claimed becomes the newest processed one. -/
theorem RoundCache.claim_processed {cache : RoundCache} {tick : Tick}
    (newer : cache.processed < tick) : (cache.claim tick).processed = tick :=
  if_pos (Int64.le_of_lt newer)

/-- What a turn does about processing: a look processes its round, or nothing is processed. -/
inductive Turn.Processing (turn : Turn) : Prop
  | done (tick : Tick) (snapshot previous : Snapshot)
      (looked : turn.check? = some (tick, snapshot)) (newest : turn.before.scoreboardTick = tick)
      (follows : turn.before.rounds.get? (tick - 1) = some previous)
      (newer : turn.before.rounds.processed < tick)
      (processed : turn.processed? = some tick)
      (after : turn.after =
        { turn.before with rounds := turn.before.rounds.claim tick }.processRound
          previous.round snapshot.round)
  | none (processed : turn.processed? = none)
      (same : turn.after.rounds.processed = turn.before.rounds.processed)
      (idle : ∀ tick snapshot, turn.check? = some (tick, snapshot) → turn.after = turn.before ∧
        (turn.before.scoreboardTick = tick → turn.before.rounds.contains (tick - 1) = true →
          ¬ turn.before.rounds.processed < tick))

/-- A turn that does not raise the newest processed tick processes nothing. -/
theorem Turn.processed?_eq_none {turn : Turn}
    (same : turn.after.rounds.processed = turn.before.rounds.processed) :
    turn.processed? = none := by
  simp [Turn.processed?, same]

/-- Every way to deal with the documents either processes a round or nothing. -/
theorem Turn.Deals.processing {turn : Turn} (deals : turn.Deals) : turn.Processing := by
  cases deals with
  | settling tick snapshot looked after =>
    rcases turn.before.settleRound_cases tick snapshot.round with
      ⟨previous, newest, follows, newer, settled⟩ | ⟨stale, settled⟩
    · -- The claim raises the newest processed tick to this one, and nothing lowers it again.
      have raised : turn.after.rounds.processed = tick := by
        rw [after, settled, Relay.processRound_rounds]
        exact RoundCache.claim_processed newer
      refine .done tick snapshot previous looked newest.symm follows newer ?_ (after.trans settled)
      simp [Turn.processed?, raised, newer]
    · -- The look finds something missing, and the relay is as before.
      have same : turn.after = turn.before := after.trans settled
      refine .none (Turn.processed?_eq_none (by rw [same])) (by rw [same]) ?_
      intro other held otherLooked
      cases looked.symm.trans otherLooked
      exact ⟨same, fun newest => stale newest.symm⟩
  | storing use tick retry reply round occasion served after next =>
    -- A round that is stored is looked at in a later turn.
    have same : turn.after.rounds.processed = turn.before.rounds.processed := by rw [after]; rfl
    refine .none (Turn.processed?_eq_none same) same fun other held looked => ?_
    simp [Turn.check?, occasion] at looked
  | filing use team retry reply history occasion served after =>
    have same : turn.after.rounds.processed = turn.before.rounds.processed := by rw [after]
    refine .none (Turn.processed?_eq_none same) same fun other held looked => ?_
    simp [Turn.check?, occasion] at looked
  | aside unchecked after =>
    have same : turn.after.rounds = turn.before.rounds := congrArg Prod.fst after
    refine .none (Turn.processed?_eq_none (by rw [same])) (by rw [same]) fun other held looked => ?_
    rw [unchecked] at looked
    cases looked

/-- A turn that starts from a quiet relay and claims a newer tick processes its round. -/
theorem Turn.Processes.of_after {turn : Turn} {tick : Tick} {previous round : Round}
    (quiet : turn.before.signals = []) (newer : turn.before.rounds.processed < tick)
    (after : turn.after =
      { turn.before with rounds := turn.before.rounds.claim tick }.processRound previous round) :
    turn.Processes tick previous round := by
  -- What processing leaves is read off the relay behind the turn, field by field.
  rw [Relay.processRound_eq] at after
  refine ⟨?_, ?_, by rw [after], by rw [after], by rw [after]; exact ⟨rfl, rfl, rfl, rfl⟩⟩
  · rw [after]
    exact RoundCache.claim_processed newer
  · -- The signals after the turn are those of the events, since there were none before.
    have signalled : turn.after.signals = (detectFirstBloods previous round).map .event := by
      rw [after, quiet, List.nil_append]
    rw [Turn.events, signalled, List.filterMap_map]
    exact List.filterMap_some

/-- Nothing from a tick on was processed exactly when the tick is above the newest processed one. -/
theorem Watermark.fresh_iff {past : List Turn} {relay : Relay} (mark : Watermark past relay)
    {tick : Tick} (counted : 0 ≤ tick) :
    relay.rounds.processed < tick ↔ ∀ other ∈ processedTicks past, other < tick := by
  constructor
  · intro newer other processed
    exact Int64.lt_of_le_of_lt (mark.bounded other processed) newer
  · intro fresh
    -- The newest processed tick is the one in front of all ticks, or was processed by some turn.
    rcases mark.reached with start | processed
    · rw [start]
      exact Int64.lt_of_lt_of_le (by decide) counted
    · exact fresh _ processed

/-- A turn keeps the newest processed tick in step with what was processed. -/
theorem Watermark.step {past : List Turn} {turn : Turn} {later : Relay}
    (mark : Watermark past turn.before) (processing : turn.Processing)
    (after : later.rounds = turn.after.rounds) : Watermark (past ++ [turn]) later := by
  cases processing with
  | done tick snapshot previous looked newest follows newer processed settled =>
    have raised : later.rounds.processed = tick := by
      rw [after, settled, Relay.processRound_rounds]
      exact RoundCache.claim_processed newer
    have below : ∀ other ∈ processedTicks past, other < tick :=
      fun other member => Int64.lt_of_le_of_lt (mark.bounded other member) newer
    refine ⟨?_, ?_, .inr ?_⟩
    · -- The new tick is above all that were processed before.
      rw [processedTicks_snoc, processed, List.pairwise_append]
      exact ⟨mark.ascending, by simp, by simpa using below⟩
    · intro other member
      rw [processedTicks_snoc, processed] at member
      rw [raised]
      rcases List.mem_append.mp member with member | member
      · exact Int64.le_of_lt (below other member)
      · simp only [Option.toList_some, List.mem_singleton] at member
        exact member ▸ Int64.le_refl tick
    · simp [processed, raised]
  | none processed same idle =>
    -- Nothing is added to what was processed, and the newest tick stays.
    have unchanged : processedTicks (past ++ [turn]) = processedTicks past := by simp [processed]
    have level : later.rounds.processed = turn.before.rounds.processed := by rw [after, same]
    exact ⟨unchanged ▸ mark.ascending, by rw [unchanged, level]; exact mark.bounded,
      by rw [unchanged, level]; exact mark.reached⟩

/-- A turn processes a tick exactly when it is a look at its round that calls for that. -/
theorem World.Step.processed_iff {backend : Backend} {past : List Turn} {world later : World}
    {turn : Turn} (step : world.Step backend turn later) (sound : world.Sound .nothing)
    (mark : Watermark past world.relay) (tick : Tick) :
    turn.processed? = some tick ↔ turn.Warrants past tick := by
  rw [← step.before] at mark
  cases step.deed.deals.processing with
  | done asked snapshot previous looked newest follows newer processed after =>
    -- The turn looks at one tick only, so it is the one processed and the one called for.
    constructor
    · intro same
      cases processed.symm.trans same
      exact ⟨⟨snapshot, looked⟩, newest, RoundCache.contains_iff.mpr ⟨previous, follows⟩,
        (mark.fresh_iff (step.check_sound sound looked).1).mp newer⟩
    · rintro ⟨⟨held, same⟩, _, _, _⟩
      cases looked.symm.trans same
      exact processed
  | none processed same idle =>
    constructor
    · intro claimed
      rw [processed] at claimed
      cases claimed
    · rintro ⟨⟨snapshot, looked⟩, newest, follows, fresh⟩
      -- A look that finds all it needs would have processed its tick.
      have newer := (mark.fresh_iff (step.check_sound sound looked).1).mpr fresh
      exact absurd newer ((idle tick snapshot looked).2 newest follows)

/-- A tick has been processed exactly when some turn processed it. -/
theorem mem_processedTicks {past : List Turn} {tick : Tick} :
    tick ∈ processedTicks past ↔
      ∃ earlier turn later, past = earlier ++ turn :: later ∧ turn.processed? = some tick := by
  simp only [processedTicks, List.mem_filterMap]
  -- A turn of the past stands between those before it and those after it.
  constructor
  · rintro ⟨turn, member, processed⟩
    obtain ⟨earlier, later, parts⟩ := List.append_of_mem member
    exact ⟨earlier, turn, later, parts, processed⟩
  · rintro ⟨earlier, turn, later, rfl, processed⟩
    exact ⟨turn, by simp, processed⟩

section Runs

variable {backend : Backend} {notificationInterval : Nat} {preferences : Preferences}
  {tasks : List NewTask} {past : List Turn} {world : World}

/-- A run from the start leads to a world in which no negative tick is asked for. -/
theorem Run.sound_nothing
    (run : Run backend (.initial notificationInterval preferences tasks) past world) :
    world.Sound .nothing :=
  run.sound (fun _ _ _ _ _ => trivial) (World.initial_sound _ _ _ _)

/-- The newest processed tick stays in step with what was processed over a whole run. -/
theorem Run.watermark
    (run : Run backend (.initial notificationInterval preferences tasks) past world) :
    Watermark past world.relay := by
  induction run with
  | begin =>
    -- Nothing has been processed, and the newest processed tick is the one in front of all.
    exact ⟨List.Pairwise.nil, fun tick member => (List.not_mem_nil member).elim, .inl rfl⟩
  | @step past world later turn run step ih =>
    rw [← step.before] at ih
    refine ih.step step.deed.deals.processing ?_
    rw [step.relay]
    rfl

/--
Over a whole run, a look at a round processes it exactly when the look calls for it.

Its first bloods are then put on the bus, and the histories go on with it. The ticks processed
ascend, so none is processed twice. A look that is not the one changes nothing, and every task that
has got its round, kept or just fetched, goes on to such a look.
-/
theorem processed_exactly_when_warranted
    (run : Run backend (.initial notificationInterval preferences tasks) past world) :
    (∀ earlier turn later, past = earlier ++ turn :: later →
      (∀ tick, turn.processed? = some tick ↔ turn.Warrants earlier tick) ∧
      ∀ tick snapshot, turn.check? = some (tick, snapshot) →
        (turn.processed? = some tick ∧ ∃ previous,
          turn.before.rounds.get? (tick - 1) = some previous ∧
          turn.after = { turn.before with rounds := turn.before.rounds.claim tick }.processRound
            previous.round snapshot.round ∧
          turn.Processes tick previous.round snapshot.round) ∨
        (turn.processed? = none ∧ turn.after = turn.before)) ∧
    (processedTicks past).Pairwise (· < ·) ∧
    (∀ tick, tick ∈ processedTicks past ↔
      ∃ earlier turn later, past = earlier ++ turn :: later ∧ turn.Warrants earlier tick) ∧
    (∀ tick snapshot, world.relay.rounds.get? tick = some snapshot → ∀ use,
      world.relay.askRanking use tick = world.relay.enter (.settleRound use tick snapshot)) ∧
    ∀ use tick retry now round, ∃ snapshot, snapshot.round = round ∧
      (world.relay.continueRanking use tick retry now (.ok round)).2 =
        .wait (.entering 1 (.settleRound use tick snapshot)) := by
  -- Each turn of the run is a step from a world that an earlier part of the run leads to.
  have decided : ∀ earlier turn later, past = earlier ++ turn :: later →
      (∀ tick, turn.processed? = some tick ↔ turn.Warrants earlier tick) ∧ turn.Processing := by
    intro earlier turn later parts
    obtain ⟨between, after, front, step⟩ := run.split parts
    exact ⟨step.processed_iff front.sound_nothing front.watermark,
      step.deed.deals.processing⟩
  refine ⟨?_, run.watermark.ascending, ?_, ?_, ?_⟩
  · -- A look that is not the one leaves the relay as it was.
    intro earlier turn later parts
    obtain ⟨iff, processing⟩ := decided earlier turn later parts
    refine ⟨iff, fun tick snapshot looked => ?_⟩
    cases processing with
    | done asked held previous same newest follows newer processed after =>
      cases looked.symm.trans same
      have quiet := run.quiet_of_mem rfl (parts ▸ by simp : turn ∈ past)
      exact .inl ⟨processed, previous, follows, after, .of_after quiet newer after⟩
    | none processed same idle => exact .inr ⟨processed, (idle tick snapshot looked).1⟩
  · intro tick
    rw [mem_processedTicks]
    constructor
    · rintro ⟨earlier, turn, later, parts, processed⟩
      exact ⟨earlier, turn, later, parts, ((decided earlier turn later parts).1 tick).mp processed⟩
    · rintro ⟨earlier, turn, later, parts, warrants⟩
      exact ⟨earlier, turn, later, parts, ((decided earlier turn later parts).1 tick).mpr warrants⟩
  · -- A round in the cache is of no negative tick, so asking for it leads straight to a look.
    intro tick snapshot kept use
    have counted := (run.sound_nothing.relay tick snapshot kept).1
    rw [Relay.askRanking, if_neg (Int64.not_lt.mpr counted), kept]
  · intro use tick retry now round
    exact ⟨⟨world.relay.fetchedRounds, round⟩, rfl, rfl⟩

end Runs

/-- Two lookups that both fetch the round of tick 7, after one that finds tick 6 in the cache. -/
def Sample.overlappingLookups : List (Moment × Choice) :=
  madeAt 0 <| lookup 5 ++ lookup 6 ++ poll 6 ++ lookupKept 6 ++ poll 7 ++
    [.call (.ranking 7), .call (.ranking 7), .reply 1 (roundReply 7), .reply 0 (roundReply 7),
      .ready 1, .ready 0]

set_option maxRecDepth 100000 in
/-- A round that was kept early is processed later, and one that was fetched twice is so once. -/
theorem overlapping_lookups_process_once :
    ∃ past world, Run Sample.backend Sample.start past world ∧ processedTicks past = [6, 7] ∧
      (processedTicks past).Pairwise (· < ·) ∧
      ∀ tick, tick ∈ processedTicks past ↔
        ∃ earlier turn later, past = earlier ++ turn :: later ∧ turn.Warrants earlier tick := by
  -- The run is replayed, and the theorem says why these ticks were processed.
  have replayed : (Sample.start.replay Sample.answers [] Sample.overlappingLookups).map
      (fun reached => processedTicks reached.1) = some [6, 7] := by decide +kernel
  obtain ⟨past, world, run, processed⟩ := Run.of_replay replayed
  obtain ⟨_, ascending, warranted, _⟩ := processed_exactly_when_warranted run
  exact ⟨past, world, run, processed, ascending, warranted⟩

end Scoreboard
