import Mathlib.Data.List.Basic
import Scoreboard.Proofs.Relay.Documents
import Scoreboard.Proofs.Relay.Signals
import Scoreboard.Proofs.Relay.Strand

/-! What the dispatcher hands on: live events in their order, but those it is too slow for. -/

namespace Scoreboard

/-- The event that a turn of the dispatcher hands on. -/
def Turn.handed? (turn : Turn) : Option LiveEvent :=
  match turn.occasion with
  | .ready (.holding _ _ event _) => some event
  | _ => none

/--
The dispatcher comes for its next event when that of a number is gone, and has not taken it yet.

The bus keeps sixty-four events, so an event is gone once that many others have followed it.
-/
def Turn.overruns (turn : Turn) (number : Nat) : Bool :=
  match turn.occasion with
  | .ready (.listening _ position) =>
    position ≤ number && number + 64 < turn.before.bus.events.sent
  | _ => false

/-- Events that are numbered from a first number on, without those that some turn overruns. -/
def spared (own : List Turn) (first : Nat) (events : List LiveEvent) : List LiveEvent :=
  ((events.zipIdx first).filter fun entry => !own.any (·.overruns entry.2)).map Prod.fst

section Spared

variable {own other : List Turn} {first : Nat} {events : List LiveEvent}

/-- What is spared of two rows of events is spared of each. -/
theorem spared_append (own : List Turn) (first : Nat) (events more : List LiveEvent) :
    spared own first (events ++ more) =
      spared own first events ++ spared own (first + events.length) more := by
  simp only [spared, List.zipIdx_append, List.filter_append, List.map_append]

/-- Turns that overrun the same of some events spare the same of them. -/
theorem spared_congr (same : ∀ number, first ≤ number → number < first + events.length →
    own.any (·.overruns number) = other.any (·.overruns number)) :
    spared own first events = spared other first events := by
  -- Whether an event is spared depends on its number alone.
  have kept : (events.zipIdx first).filter (fun entry => !own.any (·.overruns entry.2)) =
      (events.zipIdx first).filter (fun entry => !other.any (·.overruns entry.2)) := by
    apply List.filter_congr
    intro entry member
    obtain ⟨above, below, _⟩ := List.mem_zipIdx member
    rw [same entry.2 above below]
  rw [spared, spared, kept]

/-- Where no event is overrun, all are spared. -/
theorem spared_eq_self (kept : ∀ number, first ≤ number → number < first + events.length →
    own.any (·.overruns number) = false) : spared own first events = events := by
  -- No turns at all overrun nothing.
  have none : spared [] first events = events := by simp [spared]
  exact (spared_congr kept).trans none

/-- Where all events are overrun, none is spared. -/
theorem spared_eq_nil (gone : ∀ number, first ≤ number → number < first + events.length →
    own.any (·.overruns number) = true) : spared own first events = [] := by
  -- The numbers of the events are those that are overrun.
  rw [spared, List.map_eq_nil_iff, List.filter_eq_nil_iff]
  intro entry member
  obtain ⟨above, below, _⟩ := List.mem_zipIdx member
  simp [gone entry.2 above below]

end Spared

/--
The state of a delivery: the dispatcher has come to a position on the bus, and may hold an event.

The events are those since it joined, when a number of others had been on the bus already.
-/
structure Delivery (joined : Nat) (events : List LiveEvent) (own : List Turn) (position : Nat)
    (held : Option LiveEvent) : Prop where
  from_joined : joined ≤ position
  to_emitted : position ≤ joined + events.length
  /-- No event that is still to come is gone already. -/
  passed : ∀ number, own.any (·.overruns number) = true → number < position
  /-- All events up to the position that were spared have been handed on, or are held. -/
  handed : own.filterMap Turn.handed? ++ held.toList =
    spared own joined (events.take (position - joined))

namespace Delivery

variable {joined position : Nat} {events : List LiveEvent} {own : List Turn} {turn : Turn}
  {held : Option LiveEvent}

/-- A receiver that has just joined has got nothing, and nothing has passed it. -/
theorem begin (joined : Nat) : Delivery joined events [] joined none where
  -- No event stands between the joining and itself.
  from_joined := Nat.le_refl _
  to_emitted := Nat.le_add_right _ _
  passed _ gone := by cases gone
  handed := by simp [spared]

/-- Events that come later do not touch what was delivered before. -/
theorem more (delivery : Delivery joined events own position held) (later : List LiveEvent) :
    Delivery joined (events ++ later) own position held where
  from_joined := delivery.from_joined
  to_emitted := by
    have inside := delivery.to_emitted
    rw [List.length_append]
    omega
  passed := delivery.passed
  handed := by
    -- Nothing behind the position is taken, so the later events are out of sight.
    have inside := delivery.to_emitted
    rw [List.take_append_of_le_length (by omega)]
    exact delivery.handed

/-- Before its position, the turns of a delivery spare what they did before one more turn. -/
theorem spared_concat (joined : Nat) (events : List LiveEvent) {own : List Turn} {turn : Turn}
    {position : Nat} (behind : ∀ number, turn.overruns number = true → position ≤ number) :
    spared (own ++ [turn]) joined (events.take (position - joined)) =
      spared own joined (events.take (position - joined)) := by
  -- The events are in front of the position, where the turn overruns nothing.
  apply spared_congr
  intro number above below
  have before : number < position := by
    have taken := List.length_take_le (position - joined) events
    omega
  have quiet : turn.overruns number = false := by
    cases overrun : turn.overruns number with
    | false => rfl
    | true => exact absurd (behind number overrun) (by omega)
  simp [quiet]

/-- A turn that does not come for an event hands the held one on, if there is one. -/
theorem goes (delivery : Delivery joined events own position held)
    (quiet : ∀ number, turn.overruns number = false) (hands : turn.handed? = held) :
    Delivery joined events (own ++ [turn]) position none where
  from_joined := delivery.from_joined
  to_emitted := delivery.to_emitted
  passed number gone := by
    rw [List.any_append, Bool.or_eq_true] at gone
    rcases gone with before | last
    · exact delivery.passed number before
    · simp [quiet] at last
  handed := by
    -- The held event moves to the end of those that were handed on.
    rw [spared_concat joined events (by simp [quiet]), ← delivery.handed]
    cases held <;> simp [hands]

/-- A turn that comes too late passes the events over that are gone. -/
theorem lags (delivery : Delivery joined events own position none) (hands : turn.handed? = none)
    {oldest : Nat} (later : position ≤ oldest) (emitted : oldest ≤ joined + events.length)
    (exactly : ∀ number, turn.overruns number = true ↔ position ≤ number ∧ number < oldest) :
    Delivery joined events (own ++ [turn]) oldest none where
  from_joined := Nat.le_trans delivery.from_joined later
  to_emitted := emitted
  passed number gone := by
    rw [List.any_append, Bool.or_eq_true] at gone
    rcases gone with before | last
    · exact Nat.lt_of_lt_of_le (delivery.passed number before) later
    · exact ((exactly number).mp (by simpa using last)).2
  handed := by
    have joined_le := delivery.from_joined
    have position_le := delivery.to_emitted
    -- The events up to the oldest one fall into those that were passed before, and those gone.
    have split : events.take (oldest - joined) = events.take (position - joined) ++
        (events.drop (position - joined)).take (oldest - position) := by
      rw [← List.take_add]
      congr 1
      omega
    have length : (events.take (position - joined)).length = position - joined := by
      rw [List.length_take]
      omega
    -- All of the second part are events that this turn overruns.
    have gone : spared (own ++ [turn]) position
        ((events.drop (position - joined)).take (oldest - position)) = [] := by
      apply spared_eq_nil
      intro number above below
      rw [List.length_take] at below
      have overrun : turn.overruns number = true := (exactly number).mpr ⟨above, by omega⟩
      simp [overrun]
    rw [split, spared_append, length, show joined + (position - joined) = position by omega, gone,
      spared_concat joined events fun number overrun => ((exactly number).mp overrun).1,
      ← delivery.handed]
    simp [hands]

/-- A turn that finds its next event takes it. -/
theorem takes (delivery : Delivery joined events own position none) (hands : turn.handed? = none)
    (quiet : ∀ number, turn.overruns number = false) {event : LiveEvent}
    (found : events[position - joined]? = some event) :
    Delivery joined events (own ++ [turn]) (position + 1) (some event) := by
  have joined_le := delivery.from_joined
  -- Without the event, the turn would be one that takes nothing.
  have after := delivery.goes quiet hands
  obtain ⟨inside, _⟩ := List.getElem?_eq_some_iff.mp found
  refine ⟨by omega, by omega, fun number gone => Nat.lt_succ_of_lt (after.passed number gone), ?_⟩
  have split : events.take (position + 1 - joined) =
      events.take (position - joined) ++ [event] := by
    rw [Nat.sub_add_comm joined_le, List.take_add_one, found]
    rfl
  have length : (events.take (position - joined)).length = position - joined := by
    rw [List.length_take]
    omega
  -- No turn has overrun the event, for it stands at the position itself.
  have kept : spared (own ++ [turn]) position [event] = [event] := by
    apply spared_eq_self
    intro number above below
    rw [Bool.eq_false_iff]
    intro gone
    have before := after.passed number gone
    omega
  rw [split, spared_append, length, show joined + (position - joined) = position by omega, kept,
    ← after.handed]
  simp

end Delivery

/-- Where the dispatcher stands on the bus, and the event that it holds. -/
def Stage.place? : Stage → Option (Nat × Option LiveEvent)
  | .listening _ position => some (position, none)
  | .holding _ position event _ => some (position, some event)
  | .entering _ (.weighBanner (.dispatch _ position) _ _)
  | .entering _ (.showBanner (.dispatch _ position) _ _) => some (position, none)
  | _ => none

/-- A turn of the dispatcher comes for its next event, or hands on the one that it holds. -/
inductive Turn.Dispatches (turn : Turn) (position : Nat) : Option LiveEvent → Prop
  | listens (limiter : Limiter) (occasion : turn.occasion = .ready (.listening limiter position)) :
    Dispatches turn position none
  | goes {held : Option LiveEvent} {stage : Stage} (quiet : ∀ number, turn.overruns number = false)
      (hands : turn.handed? = held) (next : turn.next = .wait stage)
      (place : stage.place? = some (position, none)) : Dispatches turn position held

/-- A due turn that takes the dispatcher is one of those. -/
theorem Turn.dispatches {backend : Backend} {turn : Turn} (due : turn.IsDue backend) {stage : Stage}
    (takes : turn.occasion.stages = [stage]) {position : Nat} {held : Option LiveEvent}
    (place : stage.place? = some (position, held)) : turn.Dispatches position held := by
  -- The dispatcher waits for the bus, for its limiter and for parts of the state, not for replies.
  have unanswered : ∀ endpoint, stage.wait ≠ .reply endpoint := by
    intro endpoint waits
    cases stage <;> simp [Stage.wait, Stage.place?] at waits place
  have occasion := Turn.ready_of_takes due takes unanswered
  have result : turn.result = turn.before.resume turn.now turn.jitter stage := by
    simp only [Turn.result, occasion]
  have next : turn.next = (turn.before.resume turn.now turn.jitter stage).2 :=
    congrArg Prod.snd result
  unfold Stage.place? at place
  split at place
  · cases place
    exact .listens _ occasion
  · -- The event is handed on, and the dispatcher weighs a banner or listens again.
    rename_i limiter position event deadline
    cases place
    have quiet : ∀ number, turn.overruns number = false := by simp [Turn.overruns, occasion]
    have hands : turn.handed? = some event := by simp only [Turn.handed?, occasion]
    cases event with
    | firstBlood service team => exact .goes quiet hands next rfl
    | final tick => exact .goes quiet hands next rfl
  · -- The preferences decide whether there is a banner to show.
    rename_i parts limiter position service team
    cases place
    have quiet : ∀ number, turn.overruns number = false := by simp [Turn.overruns, occasion]
    have hands : turn.handed? = none := by simp only [Turn.handed?, occasion]
    simp only [Relay.resume, Relay.perform, Relay.weighBanner] at next
    split at next
    · exact .goes quiet hands next rfl
    · split at next <;> exact .goes quiet hands next rfl
  · -- Behind the banner, the dispatcher listens again.
    rename_i parts limiter position service team
    cases place
    have quiet : ∀ number, turn.overruns number = false := by simp [Turn.overruns, occasion]
    have hands : turn.handed? = none := by simp only [Turn.handed?, occasion]
    simp only [Relay.resume, Relay.perform] at next
    split at next <;> exact .goes quiet hands next rfl
  · cases place

/-- A turn in which the dispatcher comes for its next event carries the delivery on. -/
theorem Delivery.listens {front events : List LiveEvent} {own : List Turn} {turn : Turn}
    {limiter : Limiter} {position : Nat}
    (delivery : Delivery front.length events own position none)
    (holds : turn.before.bus.events.Holds 64 (front ++ events))
    (occasion : turn.occasion = .ready (.listening limiter position)) :
    ∃ stage place held, turn.next = .wait stage ∧ stage.place? = some (place, held) ∧
      Delivery front.length events (own ++ [turn]) place held := by
  have joined_le := delivery.from_joined
  have hands : turn.handed? = none := by simp only [Turn.handed?, occasion]
  have next : turn.next = (turn.before.listen turn.now.elapsed limiter position).2 := by
    simp only [Turn.next, Turn.result, occasion, Relay.resume]
  simp only [Relay.listen, holds.receive] at next
  -- The position is behind what the bus keeps, within that, or at its end.
  by_cases behind : position + 64 < (front ++ events).length
  · -- The bus is full of later events, and the dispatcher goes on with the oldest of them.
    rw [if_pos behind] at next
    refine ⟨_, _, _, next, rfl, delivery.lags hands (by omega) ?_ fun number => ?_⟩
    · rw [List.length_append]
      omega
    · simp only [Turn.overruns, occasion, holds.sent, Bool.and_eq_true, decide_eq_true_eq]
      omega
  · have quiet : ∀ number, turn.overruns number = false := by
      intro number
      simp only [Turn.overruns, occasion, holds.sent, Bool.and_eq_false_iff,
        decide_eq_false_iff_not]
      omega
    rw [if_neg behind] at next
    cases found : (front ++ events)[position]? with
    | some event =>
      rw [found] at next
      rw [List.getElem?_append_right joined_le] at found
      exact ⟨_, _, _, next, rfl, delivery.takes hands quiet found⟩
    | none =>
      -- Nothing has come, so the dispatcher stays where it is.
      rw [found] at next
      exact ⟨_, _, _, next, rfl, delivery.goes quiet hands⟩

section Runs

variable {backend : Backend} {notificationInterval : Nat} {preferences : Preferences}
  {tasks : List NewTask}

/-- Wherever the dispatcher stands after turns of its own, its delivery has come so far. -/
theorem Run.delivery {earlier later own : List Turn} {first : Turn} {next : Next} {world : World}
    (run : Run backend (.initial notificationInterval preferences tasks)
      (earlier ++ first :: later) world)
    (subscribes : first.occasion = .ready (.starting .dispatcher))
    (strand : Strand first.next own next) (inside : own.Sublist later) :
    ∃ stage place held, next = .wait stage ∧ stage.place? = some (place, held) ∧
      Delivery (earlier.flatMap Turn.events).length (later.flatMap Turn.events) own place held := by
  -- The bus is as it was when the dispatcher joined, which itself emits nothing.
  obtain ⟨_, _, before, step⟩ := run.split rfl
  have joins : first.result = first.before.begin first.now.elapsed .dispatcher := by
    simp only [Turn.result, subscribes, Relay.resume]
  have silent : first.events = [] := by
    rw [Turn.events, Turn.after, joins, Relay.begin, step.before, before.quiet rfl]
    rfl
  induction strand generalizing later world with
  | begin =>
    have joined : first.before.bus.events.subscribe = (earlier.flatMap Turn.events).length := by
      rw [Broadcast.subscribe, step.before]
      exact before.bus_holds.sent
    refine ⟨_, _, _, congrArg Prod.snd joins, rfl, ?_⟩
    rw [joined]
    exact .begin _
  | @step own stage turn strand takes ih =>
    -- The strand so far lies within the run so far, and what was emitted since is nothing to it.
    obtain ⟨between, rest, rfl, sofar⟩ := Strand.sublist_split inside
    obtain ⟨_, _, prior, now⟩ := run.split (List.append_assoc earlier (first :: between) _).symm
    obtain ⟨_, place, held, stands, place_eq, delivery⟩ := ih prior sofar
    cases stands
    have holds : turn.before.bus.events.Holds 64
        (earlier.flatMap Turn.events ++ between.flatMap Turn.events) := by
      rw [now.before]
      simpa [silent] using prior.bus_holds
    have carried : ∃ stage place held, turn.next = .wait stage ∧
        stage.place? = some (place, held) ∧
        Delivery (earlier.flatMap Turn.events).length (between.flatMap Turn.events)
          (own ++ [turn]) place held := by
      cases Turn.dispatches now.due takes place_eq with
      | listens limiter occasion => exact delivery.listens holds occasion
      | goes quiet hands next place => exact ⟨_, _, _, next, place, delivery.goes quiet hands⟩
    obtain ⟨stage, place, held, next, stands, delivery⟩ := carried
    refine ⟨stage, place, held, next, stands, ?_⟩
    rw [List.flatMap_append]
    exact delivery.more _

/--
Live events are handed on in their order, and none is lost but those that the dispatcher overruns.

Behind the first turn of the dispatcher, which joins the bus, the events that its further turns
hand on are at every moment the first of those that were emitted since, without the ones that were
gone when it came for them. They are the first of all events that were emitted since if, whenever
the dispatcher comes for its next event, at most sixty-four are there that it has not taken.
-/
theorem live_events_handed_on_unless_overrun {earlier later own : List Turn} {first : Turn}
    {next : Next} {world : World}
    (run : Run backend (.initial notificationInterval preferences tasks)
      (earlier ++ first :: later) world)
    (subscribes : first.occasion = .ready (.starting .dispatcher))
    (strand : Strand first.next own next) (inside : own.Sublist later) :
    own.filterMap Turn.handed? <+:
        spared own (earlier.flatMap Turn.events).length (later.flatMap Turn.events) ∧
      ((∀ turn ∈ own, ∀ limiter position, turn.occasion = .ready (.listening limiter position) →
          turn.before.bus.events.sent ≤ position + 64) →
        own.filterMap Turn.handed? <+: later.flatMap Turn.events) := by
  obtain ⟨_, place, held, _, _, delivery⟩ := run.delivery subscribes strand inside
  generalize (earlier.flatMap Turn.events).length = joined at delivery
  generalize later.flatMap Turn.events = events at delivery
  -- What was handed on ends where the dispatcher stands, and at most one event is held.
  have spares : own.filterMap Turn.handed? <+: spared own joined events := by
    rw [← List.take_append_drop (place - joined) events, spared_append, ← delivery.handed,
      List.append_assoc]
    exact List.prefix_append _ _
  refine ⟨spares, fun prompt => ?_⟩
  -- A turn that finds at most sixty-four events in front of it overruns none.
  have kept : spared own joined events = events := by
    apply spared_eq_self
    intro number _ _
    rw [List.any_eq_false]
    intro turn member
    rw [Turn.overruns]
    split
    · rename_i limiter position occasion
      have near := prompt turn member limiter position occasion
      simp only [Bool.and_eq_true, decide_eq_true_eq]
      omega
    · exact Bool.false_ne_true
  rwa [kept] at spares

end Runs

namespace Sample

/-- A request that calls out a first blood of a team. -/
def trigger (team : String) : Choice :=
  .call (.request ⟨.post, "/debug/trigger-firstblood", some "application/json",
    "\x7b\"service\":\"web\",\"team\":\"" ++ team ++ "\"\x7d"⟩)

/-- The world in which the dispatcher is about to start. -/
def dispatching : World :=
  .initial 1000 .standard [.dispatcher]

/-- Two first bloods follow each other, and the dispatcher hands the first one on. -/
def paced : List (Moment × Choice) :=
  madeAt 0 [.ready 0, trigger "A", trigger "B", .ready 0, .ready 0]

/-- One event more than the bus keeps comes before the dispatcher comes for its first. -/
def burst : List (Moment × Choice) :=
  madeAt 0 ([.ready 0, trigger "A"] ++ List.replicate 64 (trigger "B") ++
    [.ready 0, .ready 0, .ready 0])

end Sample

/-- The dispatcher alone takes its turns: the first one joins the bus, and the others follow it. -/
theorem Sample.dispatcher_strand {past : List Turn} {world : World}
    (run : Run Sample.backend Sample.dispatching past world)
    (alone : past.all Turn.keepsAlone = true) (begins : past.head?.any Turn.ofTask = true) :
    ∃ first later next, past = first :: later ∧
      first.occasion = .ready (.starting .dispatcher) ∧
      Strand first.next (later.filter Turn.ofTask) next := by
  have waits : Sample.dispatching.tasks = (Next.wait (.starting .dispatcher)).stages := rfl
  obtain ⟨next, strand, _⟩ := run.strand waits alone
  cases past with
  | nil => cases begins
  | cons first later =>
    -- The first turn is the dispatcher's, so the strand begins with it.
    have own : first.ofTask = true := begins
    rw [List.filter_cons_of_pos own] at strand
    obtain ⟨⟨stage, same, takes⟩, behind⟩ := strand.uncons rfl
    cases same
    obtain ⟨_, _, _, step⟩ := run.split (List.nil_append _).symm
    have subscribes := Turn.ready_of_takes step.due takes (by simp [Stage.wait])
    exact ⟨first, later, next, rfl, subscribes, behind⟩

set_option maxRecDepth 100000 in
/-- A dispatcher that keeps up hands on what was emitted first. -/
theorem paced_event_handed_on :
    ∃ first later own next world, Run Sample.backend Sample.dispatching (first :: later) world ∧
      first.occasion = .ready (.starting .dispatcher) ∧ Strand first.next own next ∧
      own.filterMap Turn.handed? = [.firstBlood "web" "A"] ∧
      own.filterMap Turn.handed? <+: later.flatMap Turn.events := by
  have replayed : (Sample.dispatching.replay Sample.answers [] Sample.paced).map (fun reached =>
      ((reached.1.tail.filter Turn.ofTask).filterMap Turn.handed?, reached.1.all Turn.keepsAlone,
        reached.1.head?.any Turn.ofTask,
        reached.1.all fun turn => turn.before.bus.events.sent ≤ 64)) =
      some ([.firstBlood "web" "A"], true, true, true) := by decide +kernel
  obtain ⟨past, world, run, facts⟩ := Run.of_replay replayed
  simp only [Prod.mk.injEq] at facts
  obtain ⟨handed, alone, begins, few⟩ := facts
  obtain ⟨first, later, next, rfl, subscribes, strand⟩ :=
    Sample.dispatcher_strand run alone begins
  refine ⟨first, later, _, next, world, run, subscribes, strand, handed, ?_⟩
  have behind : Run Sample.backend Sample.dispatching ([] ++ first :: later) world := run
  have delivered :=
    live_events_handed_on_unless_overrun behind subscribes strand List.filter_sublist
  -- There are never more events than the bus keeps, wherever the dispatcher stands.
  refine delivered.2 fun turn member limiter position _ => ?_
  have inside : turn ∈ first :: later := List.mem_cons_of_mem _ (List.mem_of_mem_filter member)
  have room : turn.before.bus.events.sent ≤ 64 := by
    simpa using List.all_eq_true.mp few turn inside
  omega

set_option maxRecDepth 100000 in
/-- The first of more events than the bus keeps is lost, when the dispatcher comes for it last. -/
theorem burst_loses_first_event :
    ∃ first later own next world, Run Sample.backend Sample.dispatching (first :: later) world ∧
      first.occasion = .ready (.starting .dispatcher) ∧ Strand first.next own next ∧
      own.Sublist later ∧ ¬ own.filterMap Turn.handed? <+: later.flatMap Turn.events := by
  have replayed : (Sample.dispatching.replay Sample.answers [] Sample.burst).map (fun reached =>
      ((reached.1.tail.filter Turn.ofTask).filterMap Turn.handed?,
        (reached.1.tail.flatMap Turn.events).head?, reached.1.all Turn.keepsAlone,
        reached.1.head?.any Turn.ofTask)) =
      some ([.firstBlood "web" "B"], some (.firstBlood "web" "A"), true, true) := by decide +kernel
  obtain ⟨past, world, run, facts⟩ := Run.of_replay replayed
  simp only [Prod.mk.injEq] at facts
  obtain ⟨handed, emitted, alone, begins⟩ := facts
  obtain ⟨first, later, next, rfl, subscribes, strand⟩ :=
    Sample.dispatcher_strand run alone begins
  refine ⟨first, later, _, next, world, run, subscribes, strand, List.filter_sublist, ?_⟩
  -- The first event that was emitted is of another team than the first one that was handed on.
  rw [List.tail_cons] at handed emitted
  rw [handed]
  rintro ⟨others, same⟩
  rw [← same] at emitted
  simp at emitted

end Scoreboard
