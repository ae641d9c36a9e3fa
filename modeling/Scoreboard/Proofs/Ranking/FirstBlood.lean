import Mathlib.Data.List.Nodup
import Scoreboard.Proofs.Ranking.Processing

/-! First bloods: each is told once at most, in its order, and none that no round lists. -/

namespace Scoreboard

/-- A first blood by its place: the service, and the position among its first bloods. -/
structure Occurrence where
  service : String
  position : Nat
  /-- The team that stands at the position. -/
  team : String
deriving DecidableEq, Repr

/-- The event that tells of a first blood. -/
def Occurrence.event (occurrence : Occurrence) : LiveEvent :=
  .firstBlood occurrence.service occurrence.team

/-- The place of a first blood, whoever stands there. -/
def Occurrence.place (occurrence : Occurrence) : String × Nat :=
  (occurrence.service, occurrence.position)

/-- Of two first bloods of one service, the first stands before the second. -/
def Occurrence.Precedes (first second : Occurrence) : Prop :=
  first.service = second.service → first.position < second.position

/-- The first bloods of a service behind those that were known. -/
def Service.occurrences (service : Service) (known : Nat) : List Occurrence :=
  ((service.firstBlood.drop known).zipIdx known).map fun entry => ⟨service.name, entry.2, entry.1⟩

/-- The first bloods that a round adds to the one before, with their places. -/
def newOccurrences (previous round : Round) : List Occurrence :=
  round.services.flatMap fun service => service.occurrences (knownFirstBloods previous service)

/-- The events of the first bloods that a service adds are those that a round tells of it. -/
theorem Service.map_event_occurrences (service : Service) (known : Nat) :
    (service.occurrences known).map Occurrence.event =
      (service.firstBlood.drop known).map (.firstBlood service.name) := by
  rw [Service.occurrences, List.map_map]
  -- The event of an entry leaves its number out.
  have told : (Occurrence.event ∘ fun entry : String × Nat => ⟨service.name, entry.2, entry.1⟩) =
      LiveEvent.firstBlood service.name ∘ Prod.fst := rfl
  rw [told, ← List.map_map, List.zipIdx_map_fst]

/-- The events that a round brings are those of the first bloods it adds. -/
theorem detectFirstBloods_eq_map_event (previous round : Round) :
    detectFirstBloods previous round = (newOccurrences previous round).map Occurrence.event := by
  simp only [detectFirstBloods, newOccurrences, List.map_flatMap, Service.map_event_occurrences]

/-- A first blood stands behind the known ones, at its position in the list of the service. -/
theorem Service.occurrences_place {service : Service} {known : Nat} {occurrence : Occurrence}
    (member : occurrence ∈ service.occurrences known) : service.name = occurrence.service ∧
      known ≤ occurrence.position ∧
      service.firstBlood[occurrence.position]? = some occurrence.team := by
  -- The numbers start at the known ones, and so does the part of the list that is left.
  obtain ⟨entry, numbered, rfl⟩ := List.mem_map.mp member
  rw [List.mem_zipIdx_iff_le_and_getElem?_sub, List.getElem?_drop] at numbered
  obtain ⟨behind, there⟩ := numbered
  rw [show known + (entry.2 - known) = entry.2 by omega] at there
  exact ⟨rfl, behind, there⟩

/-- The first bloods of a service come in the order of their positions. -/
theorem Service.occurrences_ascending (service : Service) (known : Nat) :
    (service.occurrences known).Pairwise Occurrence.Precedes := by
  -- The numbers alone are a range, which ascends.
  have numbers :
      (((service.firstBlood.drop known).zipIdx known).map Prod.snd).Pairwise (· < ·) := by
    rw [List.zipIdx_map_snd]
    exact List.pairwise_lt_range'
  refine List.pairwise_map.mpr ((List.pairwise_map.mp numbers).imp ?_)
  intro first second ascends _
  exact ascends

/-- A first blood that a round adds stands in it, behind all those of the round before. -/
theorem newOccurrences_place {previous round : Round} {occurrence : Occurrence}
    (member : occurrence ∈ newOccurrences previous round) :
    (∃ service ∈ round.services, service.name = occurrence.service ∧
      service.firstBlood[occurrence.position]? = some occurrence.team) ∧
    ∃ old ∈ previous.services, old.name = occurrence.service ∧
      old.firstBlood.length ≤ occurrence.position := by
  -- An occurrence is added by a service that was known before, with fewer first bloods.
  obtain ⟨service, listed, added⟩ := List.mem_flatMap.mp member
  obtain ⟨named, behind, there⟩ := Service.occurrences_place added
  refine ⟨⟨service, listed, named, there⟩, ?_⟩
  unfold knownFirstBloods at behind
  split at behind
  · -- The round before lists the service, and knows as many first bloods as it has there.
    rename_i old found
    have same : old.name = service.name := by simpa using List.find?_some found
    exact ⟨old, List.mem_of_find?_eq_some found, same.trans named, behind⟩
  · -- All first bloods of a service that is new are known, so none of them is added.
    obtain ⟨inside, _⟩ := List.getElem?_eq_some_iff.mp there
    omega

/--
Rounds that last: a later one knows all first bloods of an earlier one, in the same order.

A service may leave and come back, but no round lists one twice.
-/
structure Lasting (rounds : Tick → Round) : Prop where
  distinct : ∀ tick, 0 ≤ tick → (rounds tick).serviceNames.Nodup
  grows : ∀ tick later, 0 ≤ tick → tick < later → ∀ service ∈ (rounds tick).services,
    ∀ again ∈ (rounds later).services, service.name = again.name →
      service.firstBlood <+: again.firstBlood

namespace Lasting

variable {rounds : Tick → Round}

/-- A service has at least as many first bloods at a later tick, if it is listed there. -/
theorem length_le (lasting : Lasting rounds) {tick later : Tick} (counted : 0 ≤ tick)
    (order : tick ≤ later) {service again : Service} (listed : service ∈ (rounds tick).services)
    (relisted : again ∈ (rounds later).services) (same : service.name = again.name) :
    service.firstBlood.length ≤ again.firstBlood.length := by
  -- At the same tick it is the same service, and at a later one it has grown.
  by_cases level : tick = later
  · -- A round lists one service of a name only, so both are the same.
    subst level
    have unique := List.inj_on_of_nodup_map (lasting.distinct tick counted) listed relisted same
    exact Nat.le_of_eq (congrArg (fun listed => listed.firstBlood.length) unique)
  · have earlier : tick < later := by grind
    exact (lasting.grows tick later counted earlier service listed again relisted same).length_le

/-- The first bloods that one round adds come in order, service by service. -/
theorem new_ascending (lasting : Lasting rounds) (previous : Round) {tick : Tick}
    (counted : 0 ≤ tick) :
    (newOccurrences previous (rounds tick)).Pairwise Occurrence.Precedes := by
  refine List.pairwise_flatMap.mpr ⟨fun service _ => service.occurrences_ascending _, ?_⟩
  -- Two services of one round have different names, so there is nothing to compare.
  refine (List.pairwise_map.mp (lasting.distinct tick counted)).imp ?_
  intro service other differ first added second alsoAdded same
  have named := (Service.occurrences_place added).1
  have alsoNamed := (Service.occurrences_place alsoAdded).1
  exact absurd (named.trans (same.trans alsoNamed.symm)) differ

/-- The first bloods added at a tick stand before those added at a later one. -/
theorem new_precedes (lasting : Lasting rounds) {tick later : Tick} (counted : 0 ≤ tick)
    (order : tick < later) {first second : Occurrence}
    (added : first ∈ newOccurrences (rounds (tick - 1)) (rounds tick))
    (alsoAdded : second ∈ newOccurrences (rounds (later - 1)) (rounds later)) :
    first.Precedes second := by
  intro same
  obtain ⟨⟨service, listed, named, there⟩, _⟩ := newOccurrences_place added
  obtain ⟨_, old, oldListed, oldNamed, behind⟩ := newOccurrences_place alsoAdded
  -- The round in front of the later one is not older than the first round.
  have between : tick ≤ later - 1 := by grind
  have grown := lasting.length_le counted between listed oldListed
    (named.trans (same.trans oldNamed.symm))
  -- The first one stands inside a list that is no longer than the one the second stands behind.
  obtain ⟨inside, _⟩ := List.getElem?_eq_some_iff.mp there
  omega

end Lasting

/-- The events that looks at rounds put on the bus, in the order of the turns. -/
def rankingEvents (past : List Turn) : List LiveEvent :=
  past.flatMap fun turn => if turn.check?.isSome then turn.events else []

/-- The first bloods that the ticks processed have added, each to the round before. -/
def toldOccurrences (rounds : Tick → Round) (past : List Turn) : List Occurrence :=
  (processedTicks past).flatMap fun tick => newOccurrences (rounds (tick - 1)) (rounds tick)

/-- A look tells of the first bloods of the tick it processes, on the bus and in no other place. -/
theorem World.Step.tells {backend : Backend} {rounds : Tick → Round} {world later : World}
    {turn : Turn} (step : world.Step backend turn later) (sound : world.Sound (.ofRounds rounds))
    (quiet : world.relay.signals = []) :
    (if turn.check?.isSome then turn.events else []) =
        (turn.processed?.toList.flatMap fun tick =>
          newOccurrences (rounds (tick - 1)) (rounds tick)).map Occurrence.event ∧
      (turn.check?.isSome → turn.after.bus = turn.events.foldl EventBus.emit turn.before.bus) := by
  cases step.deed.deals.processing with
  | done tick snapshot previous looked newest follows newer processed after =>
    -- Both rounds are the ones that their ticks have for ever.
    have served : snapshot.round = rounds tick := (step.check_sound sound looked).2
    have before : previous.round = rounds (tick - 1) := by
      rw [step.before] at follows
      exact (sound.relay _ _ follows).2
    have processes := Turn.Processes.of_after (step.before ▸ quiet) newer after
    have told : turn.events = detectFirstBloods previous.round snapshot.round := processes.tells
    refine ⟨?_, fun _ => ?_⟩
    · rw [looked, told, processed, served, before, detectFirstBloods_eq_map_event]
      simp
    · rw [told, processes.bus]
  | none processed same idle =>
    rw [processed]
    cases looked : turn.check? with
    | none => simp
    | some look =>
      -- A look that processes nothing leaves the relay alone, and with it the bus.
      obtain ⟨kept, _⟩ := idle look.1 look.2 looked
      have silent : turn.events = [] := by
        rw [Turn.events, kept, step.before, quiet]
        rfl
      simp [silent, kept]

section Runs

variable {backend : Backend} {rounds : Tick → Round} {notificationInterval : Nat}
  {preferences : Preferences} {tasks : List NewTask} {past : List Turn} {world : World}

/-- The looks of a whole run tell of the first bloods that the ticks processed have added. -/
theorem Run.tells (informs : backend.Informs (.ofRounds rounds))
    (run : Run backend (.initial notificationInterval preferences tasks) past world) :
    rankingEvents past = (toldOccurrences rounds past).map Occurrence.event ∧
      ∀ turn ∈ past, turn.check?.isSome →
        turn.after.bus = turn.events.foldl EventBus.emit turn.before.bus := by
  -- The induction is on the run: a turn that looks at a round tells what that has added.
  induction run with
  | begin => exact ⟨rfl, fun turn member => (List.not_mem_nil member).elim⟩
  | @step past world later turn run step ih =>
    obtain ⟨told, emitted⟩ :=
      step.tells (run.sound informs (World.initial_sound _ _ _ _)) (run.quiet rfl)
    refine ⟨?_, fun other member => ?_⟩
    · -- Both lists grow at their ends, by what the last turn tells.
      rw [rankingEvents, List.flatMap_append, toldOccurrences, processedTicks_snoc,
        List.flatMap_append, List.map_append, ← told]
      simpa [rankingEvents, toldOccurrences] using ih.1
    · rcases List.mem_append.mp member with member | member
      · exact ih.2 other member
      · obtain rfl := List.mem_singleton.mp member
        exact emitted

/-- No negative tick is processed. -/
theorem Run.processed_counted
    (run : Run backend (.initial notificationInterval preferences tasks) past world) :
    ∀ tick ∈ processedTicks past, 0 ≤ tick := by
  intro tick member
  obtain ⟨earlier, turn, later, parts, processed⟩ := mem_processedTicks.mp member
  obtain ⟨between, after, front, step⟩ := run.split parts
  -- A tick is processed by a look at its round, and nobody looks at a negative one.
  obtain ⟨⟨snapshot, looked⟩, _⟩ :=
    (step.processed_iff front.sound_nothing front.watermark tick).mp processed
  exact (step.check_sound front.sound_nothing looked).1

/-- Over ascending ticks, the first bloods of each service come in the order of their positions. -/
theorem Lasting.told_ascending (lasting : Lasting rounds)
    (counted : ∀ tick ∈ processedTicks past, 0 ≤ tick)
    (ascending : (processedTicks past).Pairwise (· < ·)) :
    (toldOccurrences rounds past).Pairwise Occurrence.Precedes := by
  -- Inside one tick the round sets the order, and between two ticks their order does.
  refine List.pairwise_flatMap.mpr ⟨fun tick member => ?_, ?_⟩
  · exact lasting.new_ascending _ (counted tick member)
  · refine ascending.imp_of_mem ?_
    intro tick later member _ order first added second alsoAdded
    exact lasting.new_precedes (counted tick member) order added alsoAdded

/--
Over a whole run, no first blood is told twice, and none is told that no round lists.

The events of the looks at rounds are those of first bloods with different places. Each stands at
its place in the round of a tick that was processed, and those of one service come in order.
-/
theorem first_bloods_told_once (lasting : Lasting rounds)
    (informs : backend.Informs (.ofRounds rounds))
    (run : Run backend (.initial notificationInterval preferences tasks) past world) :
    rankingEvents past = (toldOccurrences rounds past).map Occurrence.event ∧
    ((toldOccurrences rounds past).map Occurrence.place).Nodup ∧
    (toldOccurrences rounds past).Pairwise Occurrence.Precedes ∧
    (∀ occurrence ∈ toldOccurrences rounds past, ∃ tick ∈ processedTicks past,
      ∃ service ∈ (rounds tick).services, service.name = occurrence.service ∧
        service.firstBlood[occurrence.position]? = some occurrence.team) ∧
    ∀ turn ∈ past, turn.check?.isSome →
      turn.after.bus = turn.events.foldl EventBus.emit turn.before.bus := by
  -- No tick is processed twice, and within a round no two first bloods have one place.
  obtain ⟨told, emitted⟩ := run.tells informs
  have ordered := lasting.told_ascending run.processed_counted run.watermark.ascending
  refine ⟨told, ?_, ordered, fun occurrence member => ?_, emitted⟩
  · -- First bloods at one place would each stand before the other.
    refine List.pairwise_map.mpr (ordered.imp ?_)
    intro first second precedes same
    have sooner := precedes (congrArg Prod.fst same)
    have level : first.position = second.position := congrArg Prod.snd same
    omega
  · obtain ⟨tick, processed, added⟩ := List.mem_flatMap.mp member
    exact ⟨tick, processed, (newOccurrences_place added).1⟩

end Runs

/-- The rounds of the sample game last. -/
theorem Sample.lasting : Lasting Sample.round where
  -- The sample has rounds at four ticks, which are compared with each other.
  distinct tick _ := by
    rw [Round.serviceNames, (round_spec tick).2.1]
    rcases tick_cases tick with listed | none
    · rcases listed with rfl | rfl | rfl | rfl <;> decide
    · simp [none]
  grows tick later _ order := by
    rw [(round_spec tick).2.1, (round_spec later).2.1]
    rcases tick_cases tick with listed | none
    · rcases tick_cases later with relisted | none
      · -- There are six pairs of ticks with services, and the other pairs are out of order.
        revert order
        rcases listed with rfl | rfl | rfl | rfl <;>
          rcases relisted with rfl | rfl | rfl | rfl <;> decide
      · simp [none]
    · simp [none]

/-- Every tick from 5 to 8 is looked up while it is the newest; a service is away at tick 7. -/
def Sample.followedTicks : List (Moment × Choice) :=
  madeAt 0 <| poll 5 ++ lookup 5 ++ poll 6 ++ lookup 6 ++ poll 7 ++ lookup 7 ++ poll 8 ++ lookup 8

set_option maxRecDepth 100000 in
/-- A service that comes back with a first blood is told of no more than before it left. -/
theorem returning_service_told_once :
    ∃ past world, Run Sample.backend Sample.start past world ∧
      rankingEvents past = [.firstBlood "web" "B", .firstBlood "web" "C"] ∧
      ((toldOccurrences Sample.round past).map Occurrence.place).Nodup := by
  -- The run is replayed through the tick at which the service is not listed.
  have replayed : (Sample.start.replay Sample.answers [] Sample.followedTicks).map
      (fun reached => rankingEvents reached.1) =
        some [.firstBlood "web" "B", .firstBlood "web" "C"] := by decide +kernel
  obtain ⟨past, world, run, told⟩ := Run.of_replay replayed
  obtain ⟨_, distinct, _⟩ :=
    first_bloods_told_once Sample.lasting Sample.backend_informs run
  exact ⟨past, world, run, told, distinct⟩

end Scoreboard
