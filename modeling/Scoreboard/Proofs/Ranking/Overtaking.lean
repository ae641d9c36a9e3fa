import Scoreboard.Proofs.Ranking.Following

/-! Which ticks the follower has processed: those that no poll overtakes while it is after them. -/

namespace Scoreboard

/-- A turn looks at the round of a tick. -/
def Turn.Looks (turn : Turn) (tick : Tick) : Prop :=
  ∃ snapshot, turn.check? = some (tick, snapshot)

/-- A turn moves the scoreboard on from a tick. -/
def Turn.Leaves (turn : Turn) (tick : Tick) : Prop :=
  turn.before.scoreboardTick = tick ∧ turn.after.scoreboardTick ≠ tick

/-- There was a look at the round of a tick while it was the scoreboard tick. -/
def LookedOnTime (past : List Turn) (tick : Tick) : Prop :=
  ∃ turn ∈ past, turn.Looks tick ∧ turn.before.scoreboardTick = tick

/-- The scoreboard has moved on from a tick. -/
def Left (past : List Turn) (tick : Tick) : Prop :=
  ∃ turn ∈ past, turn.Leaves tick

/-- The scoreboard has moved on from a tick before there was any look at its round. -/
def Overtaken (past : List Turn) (tick : Tick) : Prop :=
  ∃ earlier turn later, past = earlier ++ turn :: later ∧ turn.Leaves tick ∧
    ∀ other ∈ earlier, ¬ other.Looks tick

/-- A tick was processed, and all first bloods between its round and the one before are on the bus. -/
def Told (past : List Turn) (rounds : RoundCache) (tick : Tick) : Prop :=
  ∃ turn ∈ past, turn.processed? = some tick ∧ ∃ previous snapshot,
    rounds.get? (tick - 1) = some previous ∧ rounds.get? tick = some snapshot ∧
      turn.events = detectFirstBloods previous.round snapshot.round ∧
      turn.after.bus = turn.events.foldl EventBus.emit turn.before.bus

section Snoc

variable {past : List Turn} {turn : Turn} {tick : Tick}

/-- There was a look on time before, or the last turn makes it. -/
theorem LookedOnTime.snoc_iff : LookedOnTime (past ++ [turn]) tick ↔
    LookedOnTime past tick ∨ turn.Looks tick ∧ turn.before.scoreboardTick = tick := by
  simp [LookedOnTime, or_and_right, exists_or]

/-- The scoreboard left a tick before, or does so in the last turn. -/
theorem Left.snoc_iff : Left (past ++ [turn]) tick ↔ Left past tick ∨ turn.Leaves tick := by
  simp [Left, or_and_right, exists_or]

/-- A tick is overtaken by an earlier turn, or by the last one after no look at its round. -/
theorem Overtaken.snoc_iff : Overtaken (past ++ [turn]) tick ↔
    Overtaken past tick ∨ turn.Leaves tick ∧ ∀ other ∈ past, ¬ other.Looks tick := by
  constructor
  · rintro ⟨earlier, leaving, later, parts, leaves, unlooked⟩
    -- The turn that leaves the tick is the last one, or stands before it.
    rcases last_or_before parts with ⟨rfl, rfl, rfl⟩ | ⟨front, _, before⟩
    · exact .inr ⟨leaves, unlooked⟩
    · exact .inl ⟨earlier, leaving, front, before, leaves, unlooked⟩
  · rintro (⟨earlier, leaving, later, rfl, leaves, unlooked⟩ | ⟨leaves, unlooked⟩)
    · exact ⟨earlier, leaving, later ++ [turn], by simp, leaves, unlooked⟩
    · exact ⟨past, turn, [], rfl, leaves, unlooked⟩

/-- The scoreboard has moved on from a tick that was overtaken. -/
theorem Overtaken.left (overtaken : Overtaken past tick) : Left past tick := by
  -- The turn that overtakes a tick leaves it.
  obtain ⟨earlier, leaving, later, rfl, leaves, _⟩ := overtaken
  exact ⟨leaving, by simp, leaves⟩

end Snoc

/-- What the turns of the poller and the follower say of the rounds and the scoreboard tick. -/
structure Ledger (past : List Turn) (rounds : RoundCache) (scoreboard : Tick) : Prop where
  looks : ∀ turn ∈ past, ∀ tick, turn.Looks tick → 0 ≤ tick ∧
    tick ≤ turn.before.scoreboardTick ∧ turn.before.scoreboardTick ≤ scoreboard ∧
      rounds.contains tick = true
  told : ∀ tick ∈ processedTicks past, LookedOnTime past tick ∧ Told past rounds tick
  /-- A look on time that finds the round before processes its tick. -/
  punctual : ∀ tick, LookedOnTime past tick → rounds.contains (tick - 1) = true →
    tick ∈ processedTicks past
  left : ∀ tick, 0 ≤ tick → Left past tick →
    tick < scoreboard ∧ (Overtaken past tick ∨ LookedOnTime past tick)
  late : ∀ tick, 0 ≤ tick → Overtaken past tick → ¬ LookedOnTime past tick
  /-- The scoreboard steps over no tick once there was a look on time. -/
  passed : ∀ first tick, LookedOnTime past first → first ≤ tick → tick < scoreboard →
    Left past tick

namespace Ledger

variable {past : List Turn} {rounds : RoundCache} {scoreboard : Tick}

/-- The ledger before the first turn. -/
theorem empty : Ledger [] rounds scoreboard where
  -- No turn has looked at anything, and the scoreboard has left no tick.
  looks turn member := (List.not_mem_nil member).elim
  told tick member := (List.not_mem_nil member).elim
  punctual tick looked := by
    obtain ⟨turn, member, _⟩ := looked
    cases member
  left tick _ left := by
    obtain ⟨turn, member, _⟩ := left
    cases member
  late tick _ overtaken := by
    obtain ⟨turn, member, _⟩ := overtaken.left
    cases member
  passed first tick looked := by
    obtain ⟨turn, member, _⟩ := looked
    cases member

/-- A look on time was at no negative tick, at a round that is kept, and before what comes now. -/
theorem onTime (ledger : Ledger past rounds scoreboard) {tick : Tick}
    (looked : LookedOnTime past tick) :
    0 ≤ tick ∧ tick ≤ scoreboard ∧ rounds.contains tick = true := by
  obtain ⟨turn, member, looks, level⟩ := looked
  obtain ⟨counted, _, reached, kept⟩ := ledger.looks turn member tick looks
  exact ⟨counted, level ▸ reached, kept⟩

end Ledger

namespace Turn.Advance

variable {turn : Turn} {tick : Tick}

/-- A round that was kept before a turn is kept after it. -/
theorem contains_after (advance : turn.Advance)
    (kept : turn.before.rounds.contains tick = true) :
    turn.after.rounds.contains tick = true := by
  obtain ⟨snapshot, held⟩ := RoundCache.contains_iff.mp kept
  exact RoundCache.contains_iff.mpr ⟨snapshot, advance.keeps tick snapshot held⟩

/-- A round that is kept after a turn was kept before it, or is of a later tick than all those. -/
theorem contains_before (advance : turn.Advance)
    (kept : turn.after.rounds.contains tick = true) :
    turn.before.rounds.contains tick = true ∨ turn.before.Wants tick := by
  -- A round comes into the cache only when it is wanted.
  obtain ⟨snapshot, held⟩ := RoundCache.contains_iff.mp kept
  rcases advance.adds tick snapshot held with before | wants
  · exact .inl (RoundCache.contains_iff.mpr ⟨snapshot, before⟩)
  · exact .inr wants

/-- A turn that looks at a round leaves the scoreboard tick alone. -/
theorem scoreboard_of_looks (advance : turn.Advance) (looks : turn.Looks tick) :
    turn.after.scoreboardTick = turn.before.scoreboardTick := by
  obtain ⟨snapshot, looked⟩ := looks
  rw [advance.scoreboard, (advance.looks tick snapshot looked).2]
  rfl

/-- A turn that moves the scoreboard on from a tick looks at no round. -/
theorem not_looks_of_leaves (advance : turn.Advance) {left : Tick} (leaves : turn.Leaves left) :
    ¬ turn.Looks tick := by
  intro looks
  exact leaves.2 ((advance.scoreboard_of_looks looks).trans leaves.1)

end Turn.Advance

/-- A turn that moves the scoreboard on from a tick raises it above that. -/
theorem Turn.Rises.lt_of_leaves {turn : Turn} {tick : Tick} (rises : turn.Rises)
    (counted : 0 ≤ tick) (leaves : turn.Leaves tick) : tick < turn.after.scoreboardTick := by
  have reached := rises.reached counted (Int64.le_of_eq leaves.1.symm)
  have moved := leaves.2
  grind

/-- A tick that a turn brings the scoreboard past is one it was past before, or moves on from. -/
theorem Turn.Rises.lt_or_leaves {turn : Turn} {tick : Tick} (rises : turn.Rises)
    (counted : 0 ≤ turn.before.scoreboardTick) (passed : tick < turn.after.scoreboardTick) :
    tick < turn.before.scoreboardTick ∨ turn.Leaves tick := by
  -- A raise by one passes no tick but the one it leaves.
  rcases rises counted with same | next
  · exact .inl (same ▸ passed)
  · rw [Int64.lt_iff_toInt_lt] at passed
    by_cases level : turn.before.scoreboardTick = tick
    · refine .inr ⟨level, fun back => ?_⟩
      rw [back] at passed
      omega
    · left
      rw [← Int64.toInt_inj] at level
      rw [Int64.lt_iff_toInt_lt]
      omega

/-- What was told stays so while rounds are added. -/
theorem Told.snoc {past : List Turn} {turn : Turn} {tick : Tick} (advance : turn.Advance)
    (told : Told past turn.before.rounds tick) : Told (past ++ [turn]) turn.after.rounds tick := by
  obtain ⟨teller, member, processed, previous, snapshot, before, kept, events⟩ := told
  exact ⟨teller, List.mem_append_left _ member, processed, previous, snapshot,
    advance.keeps _ _ before, advance.keeps _ _ kept, events⟩

namespace Ledger

variable {past : List Turn} {turn : Turn}

/-- A turn keeps what looks say. -/
theorem looks_snoc (ledger : Ledger past turn.before.rounds turn.before.scoreboardTick)
    (advance : turn.Advance) (rises : turn.Rises) :
    ∀ other ∈ past ++ [turn], ∀ tick, other.Looks tick → 0 ≤ tick ∧
      tick ≤ other.before.scoreboardTick ∧
        other.before.scoreboardTick ≤ turn.after.scoreboardTick ∧
          turn.after.rounds.contains tick = true := by
  -- An earlier look keeps what it says, and the last one is at a round that is held.
  intro other member tick looks
  rcases List.mem_append.mp member with member | member
  · -- What was reached before stays so, and what was kept stays kept.
    obtain ⟨counted, before, reached, kept⟩ := ledger.looks other member tick looks
    have unfallen := rises.reached (Int64.le_trans counted before) reached
    exact ⟨counted, before, unfallen, advance.contains_after kept⟩
  · obtain rfl := List.mem_singleton.mp member
    have level := advance.scoreboard_of_looks looks
    obtain ⟨snapshot, looked⟩ := looks
    have holds := (advance.looks tick snapshot looked).1
    exact ⟨holds.counted, holds.reached, Int64.le_of_eq level.symm,
      advance.contains_after (RoundCache.contains_iff.mpr ⟨snapshot, holds.kept⟩)⟩

/-- A tick that is processed was looked at on time, and its first bloods are told. -/
theorem told_snoc (ledger : Ledger past turn.before.rounds turn.before.scoreboardTick)
    (advance : turn.Advance) (processing : turn.Processing) (quiet : turn.before.signals = []) :
    ∀ tick ∈ processedTicks (past ++ [turn]),
      LookedOnTime (past ++ [turn]) tick ∧ Told (past ++ [turn]) turn.after.rounds tick := by
  intro tick member
  rw [processedTicks_snoc, List.mem_append] at member
  rcases member with member | member
  · obtain ⟨looked, told⟩ := ledger.told tick member
    exact ⟨LookedOnTime.snoc_iff.mpr (.inl looked), told.snoc advance⟩
  · cases processing with
    | done asked snapshot previous looked newest follows newer processed after =>
      rw [processed] at member
      obtain rfl : tick = asked := by simpa using member
      have kept := (advance.looks tick snapshot looked).1.kept
      -- The look that processes the tick is on time, and its turn tells of the first bloods.
      have processes := Turn.Processes.of_after quiet newer after
      refine ⟨LookedOnTime.snoc_iff.mpr (.inr ⟨⟨snapshot, looked⟩, newest⟩), turn, by simp,
        processed, previous, snapshot, ?_, ?_, processes.tells, processes.tells ▸ processes.bus⟩
      · exact advance.keeps _ _ follows
      · exact advance.keeps _ _ kept
    | none processed same idle =>
      rw [processed] at member
      cases member

/-- A look on time that finds the round before processes its tick, unless that was done before. -/
theorem punctual_snoc (ledger : Ledger past turn.before.rounds turn.before.scoreboardTick)
    (advance : turn.Advance) (processing : turn.Processing) (mark : Watermark past turn.before) :
    ∀ tick, LookedOnTime (past ++ [turn]) tick →
      turn.after.rounds.contains (tick - 1) = true → tick ∈ processedTicks (past ++ [turn]) := by
  intro tick looked kept
  rw [processedTicks_snoc, List.mem_append]
  -- What is wanted once a tick is kept lies above it, so the round before is no new one.
  have earlier : turn.before.rounds.contains tick = true → 0 ≤ tick →
      turn.before.rounds.contains (tick - 1) = true := by
    intro held counted
    rcases advance.contains_before kept with before | wants
    · exact before
    · obtain ⟨snapshot, held⟩ := RoundCache.contains_iff.mp held
      have above := wants.newer tick snapshot held
      grind
  rcases LookedOnTime.snoc_iff.mp looked with looked | ⟨⟨snapshot, check⟩, level⟩
  · -- The look was made before, and the round before the tick was there already.
    obtain ⟨counted, _, held⟩ := ledger.onTime looked
    exact .inl (ledger.punctual tick looked (earlier held counted))
  · have holds := (advance.looks tick snapshot check).1
    have before := earlier (RoundCache.contains_iff.mpr ⟨snapshot, holds.kept⟩) holds.counted
    cases processing with
    | done asked held previous looked newest follows newer processed after =>
      cases looked.symm.trans check
      exact .inr (by simp [processed])
    | none processed same idle =>
      -- The tick was processed already, since nothing later can have been.
      have stale := (idle tick snapshot check).2 level before
      rcases mark.reached with start | member
      · rw [start] at stale
        exact absurd (Int64.lt_of_lt_of_le (by decide) holds.counted) stale
      · have reached := (ledger.onTime (ledger.told _ member).1).2.1
        rw [level] at reached
        have same : turn.before.rounds.processed = tick := by grind
        exact .inl (same ▸ member)

/-- A tick the scoreboard has moved on from was overtaken, or there was a look at it on time. -/
theorem left_snoc (ledger : Ledger past turn.before.rounds turn.before.scoreboardTick)
    (rises : turn.Rises) :
    ∀ tick, 0 ≤ tick → Left (past ++ [turn]) tick → tick < turn.after.scoreboardTick ∧
      (Overtaken (past ++ [turn]) tick ∨ LookedOnTime (past ++ [turn]) tick) := by
  -- The tick was left before, or is left in this turn, with a look on time or without.
  intro tick counted left
  rw [Overtaken.snoc_iff, LookedOnTime.snoc_iff]
  rcases Left.snoc_iff.mp left with left | leaves
  · -- The scoreboard was past the tick, and does not fall behind it again.
    obtain ⟨passed, decided⟩ := ledger.left tick counted left
    have unfallen := rises.le (Int64.le_of_lt (Int64.lt_of_le_of_lt counted passed))
    refine ⟨Int64.lt_of_lt_of_le passed unfallen, ?_⟩
    rcases decided with overtaken | looked
    · exact .inl (.inl overtaken)
    · exact .inr (.inl looked)
  · refine ⟨rises.lt_of_leaves counted leaves, ?_⟩
    by_cases unlooked : ∀ other ∈ past, ¬ other.Looks tick
    · -- Without any look the tick is overtaken by this very turn.
      exact .inl (.inr ⟨leaves, unlooked⟩)
    · -- Looks at a tick are no earlier than the tick, and there is none later than now.
      simp only [not_forall, not_not] at unlooked
      obtain ⟨other, member, looks⟩ := unlooked
      obtain ⟨_, before, reached, _⟩ := ledger.looks other member tick looks
      rw [leaves.1] at reached
      exact .inr (.inl ⟨other, member, looks, Int64.le_antisymm reached before⟩)

/-- No tick that was overtaken is looked at on time, not even later. -/
theorem late_snoc (ledger : Ledger past turn.before.rounds turn.before.scoreboardTick)
    (advance : turn.Advance) :
    ∀ tick, 0 ≤ tick → Overtaken (past ++ [turn]) tick → ¬ LookedOnTime (past ++ [turn]) tick := by
  -- A tick is overtaken by the last turn, or was before.
  intro tick counted overtaken looked
  rcases Overtaken.snoc_iff.mp overtaken with overtaken | ⟨leaves, unlooked⟩
  · rcases LookedOnTime.snoc_iff.mp looked with looked | ⟨_, level⟩
    · exact ledger.late tick counted overtaken looked
    · -- The scoreboard is past the tick already.
      have passed := (ledger.left tick counted overtaken.left).1
      rw [level] at passed
      exact Int64.lt_irrefl passed
  · -- The turn that leaves the tick comes after no look, and makes none.
    rcases LookedOnTime.snoc_iff.mp looked with ⟨other, member, looks, _⟩ | ⟨looks, _⟩
    · exact unlooked other member looks
    · exact advance.not_looks_of_leaves leaves looks

/-- The scoreboard steps over no tick. -/
theorem passed_snoc (ledger : Ledger past turn.before.rounds turn.before.scoreboardTick)
    (advance : turn.Advance) (rises : turn.Rises) :
    ∀ first tick, LookedOnTime (past ++ [turn]) first → first ≤ tick →
      tick < turn.after.scoreboardTick → Left (past ++ [turn]) tick := by
  -- The look on time was earlier, or it is the one of the last turn.
  intro first tick looked behind passed
  rw [Left.snoc_iff]
  rcases LookedOnTime.snoc_iff.mp looked with looked | ⟨looks, level⟩
  · obtain ⟨counted, reached, _⟩ := ledger.onTime looked
    rcases rises.lt_or_leaves (Int64.le_trans counted reached) passed with before | leaves
    · exact .inl (ledger.passed first tick looked behind before)
    · exact .inr leaves
  · -- A look on time is at the scoreboard tick itself, and no tick lies between.
    rw [advance.scoreboard_of_looks looks, level] at passed
    exact absurd (Int64.lt_of_le_of_lt behind passed) Int64.lt_irrefl

end Ledger

/-- Before their first turns, the poller and the follower have nothing to show for. -/
theorem Following.initial (notificationInterval : Nat) (preferences : Preferences) :
    Following [] (.initial notificationInterval preferences [.poller, .follower]) where
  -- The two tasks start, and nothing is kept or polled.
  tasks := ⟨[.starting .poller], .starting .follower, rfl, by simp [Stage.Polls], trivial⟩
  level counted := by cases counted
  polled := rfl
  announced tick snapshot kept := by cases kept

section Runs

variable {backend : Backend} {notificationInterval : Nat} {preferences : Preferences}
  {past : List Turn} {world : World}

/-- A run of the poller and the follower keeps them where they belong, and the ledger right. -/
theorem Run.ledger
    (run : Run backend (.initial notificationInterval preferences [.poller, .follower]) past world)
    (uncalled : ∀ turn ∈ past, ∀ call, turn.occasion ≠ .call call)
    (rising : RisingByOne (polledTicks past)) :
    Following past world ∧ Ledger past world.relay.rounds world.relay.scoreboardTick := by
  induction run with
  | begin => exact ⟨.initial _ _, .empty⟩
  | @step past world later turn run step ih =>
    have risen : RisingByOne (polledTicks past) := by
      rw [polledTicks_snoc] at rising
      exact (List.isChain_append.mp rising).1
    -- The turns before brought rising ticks, so the invariants hold in front of the last one.
    obtain ⟨following, ledger⟩ :=
      ih (fun other member => uncalled other (List.mem_append_left _ member)) risen
    have quiet := run.quiet rfl
    obtain ⟨follows, advance, rises⟩ :=
      following.step step (uncalled turn (by simp)) quiet rising
    have processing := step.deed.deals.processing
    have mark := run.watermark
    rw [← step.before] at ledger quiet mark
    refine ⟨follows, ?_⟩
    rw [step.relay]
    exact ⟨ledger.looks_snoc advance rises, ledger.told_snoc advance processing quiet,
      ledger.punctual_snoc advance processing mark, ledger.left_snoc rises,
      ledger.late_snoc advance, ledger.passed_snoc advance rises⟩

/-- Between two processed ticks, a tick was looked at on time or was overtaken. -/
theorem Ledger.onTime_of_between {rounds : RoundCache} {scoreboard : Tick}
    (ledger : Ledger past rounds scoreboard) {first last tick : Tick}
    (opened : first ∈ processedTicks past) (closed : last ∈ processedTicks past)
    (after : first ≤ tick) (before : tick ≤ last) (unovertaken : ¬ Overtaken past tick) :
    LookedOnTime past tick := by
  -- The scoreboard was past the first tick and came to the last one, so it left each in between.
  have start := (ledger.told first opened).1
  have finish := (ledger.told last closed).1
  by_cases same : tick = last
  · exact same ▸ finish
  · -- The scoreboard has been at the first tick and at the last, and so has left this one.
    have reached := (ledger.onTime finish).2.1
    have passed : tick < scoreboard := by grind
    have counted := Int64.le_trans (ledger.onTime start).1 after
    have left := ledger.passed first tick start after passed
    exact (ledger.left tick counted left).2.resolve_left unovertaken

/--
In a run of the poller and the follower, a tick is skipped only where one was overtaken.

Polls bring rising ticks, and the follower fetches at its own pace. Between two processed ticks, a
tick is processed exactly when no poll moved the scoreboard on from it before there was a look at
its round, and the round before it is kept; that one is kept whenever it was not overtaken itself.
So where no tick is overtaken none is skipped, and all first bloods on the way are told.
-/
theorem processed_exactly_when_not_overtaken
    (run : Run backend (.initial notificationInterval preferences [.poller, .follower]) past world)
    (uncalled : ∀ turn ∈ past, ∀ call, turn.occasion ≠ .call call)
    (rising : RisingByOne (polledTicks past)) {first last : Tick}
    (opened : first ∈ processedTicks past) (closed : last ∈ processedTicks past) :
    (∀ tick, first ≤ tick → tick ≤ last →
      (tick ∈ processedTicks past ↔
        ¬ Overtaken past tick ∧ world.relay.rounds.contains (tick - 1) = true) ∧
      (first < tick → ¬ Overtaken past (tick - 1) →
        world.relay.rounds.contains (tick - 1) = true) ∧
      (tick ∈ processedTicks past → Told past world.relay.rounds tick)) ∧
    ((∀ tick, first ≤ tick → tick < last → ¬ Overtaken past tick) →
      ∀ tick, first ≤ tick → tick ≤ last →
        tick ∈ processedTicks past ∧ Told past world.relay.rounds tick) := by
  obtain ⟨_, ledger⟩ := run.ledger uncalled rising
  have counted : ∀ tick ∈ processedTicks past, 0 ≤ tick := run.processed_counted
  have kept : ∀ tick ∈ processedTicks past, world.relay.rounds.contains (tick - 1) = true := by
    intro tick member
    obtain ⟨_, _, _, previous, _, before, _⟩ := (ledger.told tick member).2
    exact RoundCache.contains_iff.mpr ⟨previous, before⟩
  have exactly : ∀ tick, first ≤ tick → tick ≤ last → (tick ∈ processedTicks past ↔
      ¬ Overtaken past tick ∧ world.relay.rounds.contains (tick - 1) = true) := by
    intro tick after before
    -- A processed tick was looked at on time, and what was overtaken never is.
    constructor
    · intro member
      refine ⟨fun overtaken => ?_, kept tick member⟩
      exact ledger.late tick (counted tick member) overtaken (ledger.told tick member).1
    · rintro ⟨unovertaken, held⟩
      exact ledger.punctual tick
        (ledger.onTime_of_between opened closed after before unovertaken) held
  have predecessor : ∀ tick, first < tick → tick ≤ last → ¬ Overtaken past (tick - 1) →
      world.relay.rounds.contains (tick - 1) = true := by
    intro tick after before unovertaken
    have between : first ≤ tick - 1 ∧ tick - 1 ≤ last := by
      have nonnegative := counted first opened
      grind
    exact (ledger.onTime
      (ledger.onTime_of_between opened closed between.1 between.2 unovertaken)).2.2
  refine ⟨fun tick after before => ⟨exactly tick after before,
    fun behind => predecessor tick behind before, fun member => (ledger.told tick member).2⟩, ?_⟩
  intro unovertaken tick after before
  have member : tick ∈ processedTicks past := by
    by_cases ends : tick = first ∨ tick = last
    · rcases ends with rfl | rfl
      · exact opened
      · exact closed
    · -- Neither this tick nor the one before is overtaken, so the round before it is there.
      have inside : first ≤ tick - 1 ∧ tick - 1 < last ∧ first < tick ∧ tick < last := by
        have nonnegative := counted first opened
        grind
      obtain ⟨behind, ahead, afterFirst, beforeLast⟩ := inside
      have held := predecessor tick afterFirst before (unovertaken (tick - 1) behind ahead)
      exact (exactly tick after before).mpr ⟨unovertaken tick after beforeLast, held⟩
  exact ⟨member, (ledger.told tick member).2⟩

end Runs

/-- A turn at which a request for a round fails with no retry left. -/
def Turn.givesUp (turn : Turn) : Bool :=
  match turn.occasion with
  | .reply (.fetchingRound _ tick retry) reply =>
    (reply.document (.round tick) .round).toOption.isNone &&
      (Endpoint.round tick).policy.budget ≤ retry
  | _ => false

namespace Sample

/-- The world in which the poller and the follower are about to start. -/
def pair : World :=
  .initial 1000 .standard [.poller, .follower]

/-- The poller asks, is told a tick, and rests. -/
def polls (tick : Tick) : List Choice :=
  [.ready 0, .reply 0 (stateReply tick), .ready 0]

/-- The follower asks for the round of the newest tick, gets it, and looks at it. -/
def follows (tick : Tick) : List Choice :=
  [.ready 1, .reply 1 (roundReply tick), .ready 1]

/-- The follower keeps up with every poll. -/
def prompt : List (Moment × Choice) :=
  madeAt 0 (polls 5 ++ follows 5) ++ madeAt 10000 (polls 6 ++ follows 6) ++
    madeAt 20000 (polls 7 ++ follows 7) ++ madeAt 30000 (polls 8 ++ follows 8)

/-- The round of tick 7 is served only after a poll has brought tick 8. -/
def slow : List (Moment × Choice) :=
  madeAt 0 (polls 5 ++ follows 5) ++ madeAt 10000 (polls 6 ++ follows 6) ++
    madeAt 20000 (polls 7 ++ [.ready 1]) ++
    madeAt 30000 (polls 8 ++ [.reply 1 (roundReply 7), .ready 1] ++ follows 8)

end Sample

/-- Turns that each take a task out of its wait are no calls. -/
theorem uncalled_of_all {past : List Turn}
    (taken : (past.all fun turn => !turn.occasion.stages.isEmpty) = true) :
    ∀ turn ∈ past, ∀ call, turn.occasion ≠ .call call := by
  -- A call takes no task out of its wait.
  intro turn member call called
  have waited := List.all_eq_true.mp taken turn member
  rw [called] at waited
  cases waited

set_option maxRecDepth 100000 in
/-- A follower that keeps up skips no tick, and tells of all first bloods on the way. -/
theorem prompt_follower_tells_all :
    ∃ past world, Run Sample.backend Sample.pair past world ∧ processedTicks past = [6, 7, 8] ∧
      ∀ tick, 6 ≤ tick → tick ≤ 8 → Told past world.relay.rounds tick := by
  have replayed : (Sample.pair.replay Sample.answers [] Sample.prompt).map (fun reached =>
      (processedTicks reached.1, polledTicks reached.1,
        reached.1.all fun turn => !turn.occasion.stages.isEmpty)) =
      some ([6, 7, 8], [5, 6, 7, 8], true) := by decide +kernel
  obtain ⟨past, world, run, facts⟩ := Run.of_replay replayed
  simp only [Prod.mk.injEq] at facts
  obtain ⟨processed, polled, taken⟩ := facts
  have rising : RisingByOne (polledTicks past) := by
    rw [polled]
    simp [RisingByOne]
  have opened : 6 ∈ processedTicks past := by simp [processed]
  have closed : 8 ∈ processedTicks past := by simp [processed]
  obtain ⟨exactly, complete⟩ :=
    processed_exactly_when_not_overtaken run (uncalled_of_all taken) rising opened closed
  refine ⟨past, world, run, processed, fun tick after before => ?_⟩
  -- Both ticks in front of the last were processed, so neither was overtaken.
  refine (complete (fun other fromFirst toLast => ?_) tick after before).2
  have between : other = 6 ∨ other = 7 := by grind
  have member : other ∈ processedTicks past := by
    rcases between with rfl | rfl <;> simp [processed]
  exact ((exactly other fromFirst (Int64.le_of_lt toLast)).1.mp member).1

set_option maxRecDepth 100000 in
/--
A tick is skipped although polls bring rising ticks and every request for a round succeeds.

The round of tick 7 is on its way when a poll brings tick 8, so nobody is told of its first blood.
-/
theorem slow_round_skips_its_tick :
    ∃ past world, Run Sample.backend Sample.pair past world ∧
      (∀ turn ∈ past, ∀ call, turn.occasion ≠ .call call) ∧ RisingByOne (polledTicks past) ∧
      (∀ turn ∈ past, turn.givesUp = false) ∧
      6 ∈ processedTicks past ∧ 8 ∈ processedTicks past ∧ 7 ∉ processedTicks past ∧
      LiveEvent.firstBlood "web" "C" ∈ detectFirstBloods (Sample.round 6) (Sample.round 7) ∧
      LiveEvent.firstBlood "web" "C" ∉ past.flatMap Turn.events := by
  have replayed : (Sample.pair.replay Sample.answers [] Sample.slow).map (fun reached =>
      (processedTicks reached.1, polledTicks reached.1, reached.1.flatMap Turn.events,
        (reached.1.all fun turn => !turn.occasion.stages.isEmpty),
        reached.1.any Turn.givesUp)) =
      some ([6, 8], [5, 6, 7, 8], [.firstBlood "web" "B"], true, false) := by decide +kernel
  obtain ⟨past, world, run, facts⟩ := Run.of_replay replayed
  -- The kernel has replayed the schedule, and says what was processed, polled and told on the way.
  simp only [Prod.mk.injEq] at facts
  obtain ⟨processed, polled, told, taken, kept⟩ := facts
  refine ⟨past, world, run, uncalled_of_all taken, ?_, ?_, ?_, ?_, ?_, ?_, ?_⟩
  · rw [polled]
    simp [RisingByOne]
  · simpa using kept
  · simp [processed]
  · simp [processed]
  · simp [processed]
  · decide +kernel
  · simp [told]

end Scoreboard
