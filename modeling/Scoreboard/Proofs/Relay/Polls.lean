import Scoreboard.Proofs.Dashboards.Retention
import Scoreboard.Proofs.Document.BannedTeams
import Scoreboard.Proofs.Relay.PollEnds

/-! Polls: what the relay knows of the game, and has told of it, follows from how its polls ended. -/

namespace Scoreboard

/-- The tick that a live event says is the last, none for any other event. -/
def LiveEvent.finalTick? : LiveEvent → Option Tick
  | .final tick => some tick
  | .firstBlood _ _ => none

/-- What the dashboards are told when the backend cannot be reached any more. -/
def ServerEvent.unreachable : ServerEvent :=
  .info "scoreboard backend unreachable"

/-- A response that some reply to a poll of a run carries. -/
def Brought (past : List Turn) (response : StateResponse) : Prop :=
  ∃ turn ∈ past, ∃ again reply, turn.occasion = .reply (.polling again) reply ∧
    reply.stateResponse = .ok response

/-- A task takes in no state of the game but one that a poll has brought. -/
def Stage.Polled (past : List Turn) : Stage → Prop
  | .entering _ (.absorbState _ response) => Brought past response
  -- No task takes in a state in any other way.
  | .entering _ (.replaceState _) => False
  | _ => True

namespace Turn

/-- A turn in which somebody calls the end of the game out by hand. -/
def callsFinal (turn : Turn) : Bool :=
  match turn.occasion with
  | .ready (.entering _ (.answer _ .triggerFinal)) => true
  | _ => false

/-- The ends of the game that the turn tells the bus of, unless it calls one out by hand. -/
def finals (turn : Turn) : List Tick :=
  if turn.callsFinal then [] else turn.events.filterMap LiveEvent.finalTick?

end Turn

/-- The ends of the game that a run told the bus of, other than by hand. -/
def finalsOf (past : List Turn) : List Tick :=
  past.flatMap Turn.finals

/-- How often a run told the dashboards that the backend cannot be reached. -/
def alarmsOf (past : List Turn) : Nat :=
  (broadcastsOf past "info").count .unreachable

/-- A signal that comes of polls, or of calling the end of a game out by hand. -/
def Signal.OfPoll : Signal → Prop
  | .event (.final _) | .newestTick _ => True
  | .broadcast told => told.event = some "scoreboard_tick" ∨ told = .unreachable
  | _ => False

/-- An event under a name that polls do not use comes from somewhere else. -/
theorem Signal.not_ofPoll {event : ServerEvent} {name : String} (named : event.event = some name)
    (other : name ∉ ["scoreboard_tick", "info"]) : ¬ (Signal.broadcast event).OfPoll := by
  -- The two names that polls use are excluded, and each of them comes with its kind.
  rintro (tick | alarm)
  · cases named.symm.trans tick
    exact other (by decide)
  · rw [alarm] at named
    cases named
    exact other (by decide)

namespace Relay

/-- A relay becomes a later one, and nothing that polls are about is changed or told. -/
structure Spares (relay later : Relay) : Prop where
  live : later.live = relay.live
  newest : later.newestTick = relay.newestTick
  degraded : later.degraded = relay.degraded
  tells : ∃ told, later.signals = relay.signals ++ told ∧ ∀ signal ∈ told, ¬ signal.OfPoll

variable {relay later : Relay}

/-- Who leaves the four parts that polls touch alone spares them. -/
theorem Spares.of_same (live : later.live = relay.live) (bus : later.bus = relay.bus)
    (degraded : later.degraded = relay.degraded) (signals : later.signals = relay.signals) :
    relay.Spares later where
  live := live
  newest := congrArg (fun bus => bus.newestTick.value) bus
  degraded := degraded
  tells := ⟨[], signals.trans (List.append_nil _).symm, fun _ none => nomatch none⟩

/-- Events under other names than those of polls are none of their business. -/
theorem spares_broadcast {event : ServerEvent} {name : String} (named : event.event = some name)
    (other : name ∉ ["scoreboard_tick", "info"]) : relay.Spares (relay.broadcast event) where
  -- The hub and the signals change, and the rest is what it was.
  live := rfl
  newest := rfl
  degraded := rfl
  tells := ⟨[.broadcast event], rfl, by simpa using Signal.not_ofPoll named other⟩

/-- A first blood on the bus is no business of polls. -/
theorem spares_emit_firstBlood (service team : String) :
    relay.Spares (relay.emit (.firstBlood service team)) where
  -- The newest tick is raised by finals only.
  live := rfl
  newest := rfl
  degraded := rfl
  tells := ⟨[.event (.firstBlood service team)], rfl, by simp [Signal.OfPoll]⟩

/-- A task that is started is no business of polls. -/
theorem spares_start (task : NewTask) : relay.Spares (relay.start task) where
  -- A task is no event, so that none of the signals of a poll is added.
  live := rfl
  newest := rfl
  degraded := rfl
  tells := ⟨[.start task], rfl, by simp [Signal.OfPoll]⟩

/-- A banner is no business of polls. -/
theorem spares_showBanner (service team : String) :
    relay.Spares (relay.showBanner service team) where
  -- The banner is sent under its own name, and its timer is a task.
  live := rfl
  newest := rfl
  degraded := rfl
  tells := by
    refine ⟨_, (relay.tells_showBanner service team).signals, ?_⟩
    simpa using ⟨Signal.not_ofPoll rfl (by decide), id⟩

/-- An animation is no business of polls. -/
theorem spares_playPyro : relay.Spares relay.playPyro where
  -- The animation is sent under its own name, and its two timers are tasks.
  live := rfl
  newest := rfl
  degraded := rfl
  tells := by
    refine ⟨_, relay.tells_playPyro.signals, ?_⟩
    simpa using ⟨Signal.not_ofPoll rfl (by decide), id, id⟩

/-- The greeting of a dashboard is no alarm. -/
theorem spares_joinDashboard : relay.Spares relay.joinDashboard.1 where
  -- The greeting goes to the one dashboard that joins.
  live := rfl
  newest := rfl
  degraded := rfl
  tells := ⟨_, relay.tells_joinDashboard.signals, by simp [Signal.OfPoll]; decide⟩

/-- A change of the overlay is no business of polls. -/
theorem spares_overlayChanged (result : Overlay × Bool) :
    relay.Spares (relay.overlayChanged result).1 where
  -- The overlay is sent under its own name, when it is sent.
  live := by
    obtain ⟨hub, signals, changed⟩ := relay.overlayChanged_eq result
    rw [changed]
  newest := by
    obtain ⟨overlay, _ | _⟩ := result <;> rfl
  degraded := by
    obtain ⟨hub, signals, changed⟩ := relay.overlayChanged_eq result
    rw [changed]
  tells := by
    refine ⟨_, (relay.tells_overlayChanged result).signals, fun signal told => ?_⟩
    split at told
    · cases List.mem_singleton.mp told
      exact Signal.not_ofPoll rfl (by decide)
    · cases told

/-- A round that is settled is told of by its first bloods only. -/
theorem spares_settleRound (tick : Tick) (round : Round) :
    relay.Spares (relay.settleRound tick round) := by
  -- The newest tick is not raised by first bloods, and they are all that is told.
  rcases relay.settleRound_cases tick round with ⟨previous, _, _, _, settled⟩ | ⟨_, settled⟩
  · rw [settled, processRound_eq]
    refine ⟨rfl, congrArg Watch.value (EventBus.newestTick_foldl_emit _ _), rfl, _, rfl, ?_⟩
    intro signal told
    obtain ⟨event, brought, rfl⟩ := List.mem_map.mp told
    obtain ⟨service, _, inside⟩ := List.mem_flatMap.mp brought
    obtain ⟨team, _, rfl⟩ := List.mem_map.mp inside
    exact id
  · rw [settled]
    exact .of_same rfl rfl rfl rfl

end Relay

namespace Turn

variable {turn : Turn}

/-- A turn that is called to tell the end of the game calls a final. -/
theorem callsFinal_of_calls {tick : Tick} (called : turn.occasion.Calls (.final tick)) :
    turn.callsFinal = true := by
  -- The final is called for in one way only.
  unfold callsFinal
  revert called
  generalize turn.occasion = occasion
  rintro ⟨⟩
  rfl

/-- No poll calls the end of the game out by hand. -/
theorem callsFinal_of_pollEnd? {ended : PollEnd} (ends : turn.pollEnd? = some ended) :
    turn.callsFinal = false := by
  -- The end of a poll is a turn of a task, which is no call.
  unfold pollEnd? at ends
  unfold callsFinal
  split at ends
  · rename_i occasion
    rw [occasion]
  · rename_i occasion
    rw [occasion]
  · cases ends

/-- A poll that brings a state tells of its stop and of its move, as far as it holds. -/
theorem told_of_taken (quiet : turn.before.signals = []) {response : StateResponse} {holds : Bool}
    (ends : turn.pollEnd? = some (.taken response holds)) :
    turn.finals =
        (toldSuccession turn.before.live.current response.state holds).filterMap stopBetween? ∧
      turn.broadcasts "scoreboard_tick" =
        ((toldSuccession turn.before.live.current response.state holds).filterMap
          moveBetween?).map .scoreboardTick ∧
      (turn.broadcasts "info").count .unreachable = 0 := by
  have told := (tells_of_taken ends).signals
  rw [quiet, List.nil_append] at told
  rw [finals, callsFinal_of_pollEnd? ends, if_neg Bool.false_ne_true, events, broadcasts,
    broadcasts, told]
  cases holds with
  | false => exact ⟨rfl, rfl, rfl⟩
  | true =>
    -- What is told depends on nothing but whether the game stopped and whether the scoreboard moved.
    simp only [toldSuccession, if_pos, List.flatMap_singleton, successionSignals]
    cases stop : stopBetween? (turn.before.live.current, response.state) <;>
      cases move : moveBetween? (turn.before.live.current, response.state) <;>
        rw [List.filterMap_cons, List.filterMap_cons, stop, move] <;>
          exact ⟨rfl, rfl, rfl⟩

/-- The newest tick is that of the last scoreboard that a poll told of. -/
theorem newestTick_of_taken {response : StateResponse} {holds : Bool}
    (ends : turn.pollEnd? = some (.taken response holds)) {moves : List CurrentState}
    (newest : turn.before.newestTick = lastScoreboard moves) :
    turn.after.newestTick = lastScoreboard (moves ++
      (toldSuccession turn.before.live.current response.state holds).filterMap moveBetween?) := by
  have bus := (tells_of_taken ends).bus
  have tick : turn.after.newestTick = turn.after.bus.newestTick.value := rfl
  rw [tick, bus]
  cases holds with
  | false =>
    -- Nothing is told, so nothing came behind the moves from before.
    exact newest.trans (congrArg lastScoreboard (List.append_nil moves).symm)
  | true =>
    simp only [toldSuccession, if_pos, List.flatMap_singleton, successionSignals]
    cases move : moveBetween? (turn.before.live.current, response.state) with
    | none =>
      rw [List.filterMap_cons, move, List.filterMap_nil, List.append_nil, ← newest]
      cases stopBetween? (turn.before.live.current, response.state) <;> rfl
    | some later =>
      rw [List.filterMap_cons, move, List.filterMap_nil, lastScoreboard_concat]
      cases stopBetween? (turn.before.live.current, response.state) <;> rfl

/-- A turn that tells the dashboards of nothing that polls are about. -/
theorem broadcasts_of_others
    (others : ∀ event, .broadcast event ∈ turn.after.signals → ¬ (Signal.broadcast event).OfPoll) :
    turn.broadcasts "scoreboard_tick" = [] ∧ (turn.broadcasts "info").count .unreachable = 0 := by
  -- What the turn brings to the dashboards is a signal of its own.
  have brought : ∀ event, event ∈ turn.after.signals.filterMap Signal.broadcast? →
      .broadcast event ∈ turn.after.signals := by
    intro event member
    obtain ⟨signal, held, same⟩ := List.mem_filterMap.mp member
    cases signal with
    | broadcast told =>
      cases same
      exact held
    | _ => cases same
  constructor
  · rw [Turn.broadcasts, List.filter_eq_nil_iff]
    exact fun event member named =>
      others event (brought event member) (.inl (of_decide_eq_true named))
  · rw [List.count_eq_zero]
    exact fun member => others _ (brought _ (List.mem_filter.mp member).1) (.inr rfl)

/-- A turn that leaves alone what polls are about, and tells of nothing of that kind. -/
structure Aside (turn : Turn) : Prop where
  live : turn.after.live = turn.before.live
  newest : turn.after.newestTick = turn.before.newestTick
  degraded : turn.after.degraded = turn.before.degraded
  finals : turn.finals = []
  moves : turn.broadcasts "scoreboard_tick" = []
  alarms : (turn.broadcasts "info").count .unreachable = 0

/-- A turn that spares polls lies aside from all of them. -/
theorem Aside.of_spares (quiet : turn.before.signals = [])
    (spares : turn.before.Spares turn.after) : turn.Aside := by
  obtain ⟨told, tells, others⟩ := spares.tells
  rw [quiet, List.nil_append] at tells
  obtain ⟨moves, alarms⟩ := turn.broadcasts_of_others fun event member => others _ (tells ▸ member)
  refine ⟨spares.live, spares.newest, spares.degraded, ?_, moves, alarms⟩
  unfold Turn.finals
  split
  · rfl
  · rw [List.filterMap_eq_nil_iff]
    intro event member
    obtain ⟨signal, held, same⟩ := List.mem_filterMap.mp member
    -- The end of the game would be a signal of polls.
    cases signal with
    | event brought =>
      cases same
      cases event with
      | firstBlood service team => rfl
      | final tick => exact (others (.event (.final tick)) (tells ▸ held) trivial).elim
    | _ => cases same

/-- The end of the game that is called out by hand is none of the business of polls. -/
theorem Aside.of_call {tick : Tick} (quiet : turn.before.signals = [])
    (called : turn.callsFinal = true) (after : turn.after = turn.before.emit (.final tick)) :
    turn.Aside := by
  -- The final is the only signal, and it is no broadcast.
  have told : turn.after.signals = [.event (.final tick)] := by
    rw [after]
    simp [Relay.emit, Relay.signal, quiet]
  obtain ⟨moves, alarms⟩ := turn.broadcasts_of_others fun event member => by
    rw [told] at member
    cases List.mem_singleton.mp member
  exact ⟨by rw [after]; rfl, by rw [after]; rfl, by rw [after]; rfl,
    by rw [Turn.finals, if_pos called], moves, alarms⟩

/-- A turn that ends no poll leaves alone what polls are about. -/
theorem Deed.aside (deed : turn.Deed) (quiet : turn.before.signals = [])
    (ends : turn.pollEnd? = none)
    (kept : ∀ parts current, turn.occasion ≠ .ready (.entering parts (.replaceState current))) :
    turn.Aside := by
  cases deed with
  | misses plain after again reply problem occasion failed =>
    simp [pollEnd?, occasion, failed] at ends
  | absorbs parts again response occasion plain after last =>
    simp [pollEnd?, occasion, last] at ends
  | replaces parts current live occasion plain after => exact absurd occasion (kept parts current)
  | emits event plain after called =>
    cases event with
    | firstBlood service team =>
      exact .of_spares quiet (after ▸ Relay.spares_emit_firstBlood service team)
    | final tick => exact .of_call quiet (callsFinal_of_calls called) after
  | settles parts use tick snapshot occasion last after next =>
    exact .of_spares quiet (after ▸ Relay.spares_settleRound tick snapshot.round)
  | blood use service team hands plain after =>
    exact .of_spares quiet (after ▸ Relay.spares_broadcast rfl (by decide))
  | final use tick hands plain after => exact .of_spares quiet (after ▸ Relay.spares_start _)
  | shows service team plain after =>
    exact .of_spares quiet (after ▸ Relay.spares_showBanner service team)
  | dismisses plain after => exact .of_spares quiet (after ▸ Relay.spares_overlayChanged _)
  | runsOut timer plain after =>
    exact .of_spares quiet (after ▸ turn.before.runOut_eq timer ▸ Relay.spares_overlayChanged _)
  | names parts tick round occasion last after =>
    exact .of_spares quiet (after ▸ Relay.spares_broadcast rfl (by decide))
  | plays parts winners occasion last after => exact .of_spares quiet (after ▸ Relay.spares_playPyro)
  | joins plain after => exact .of_spares quiet (after ▸ Relay.spares_joinDashboard)
  | prefers preferences plain after =>
    refine .of_spares quiet ?_
    rw [after]
    exact ⟨rfl, rfl, rfl, (Relay.spares_broadcast rfl (by decide)).tells⟩
  -- All other deeds leave the state of the game, the bus and the signals alone.
  | goes goes after => exact .of_spares quiet (after ▸ .of_same rfl rfl rfl rfl)
  | _ => exact .of_spares quiet (by rw [‹turn.after = _›]; exact .of_same rfl rfl rfl rfl)

end Turn

section Runs

variable {past : List Turn} {turn : Turn}

/-- A turn adds the ends of the game that it tells of. -/
theorem finalsOf_concat : finalsOf (past ++ [turn]) = finalsOf past ++ turn.finals := by
  simp [finalsOf]

/-- A turn adds the events of a name that it brings to the dashboards. -/
theorem broadcastsOf_concat (name : String) :
    broadcastsOf (past ++ [turn]) name = broadcastsOf past name ++ turn.broadcasts name := by
  simp [broadcastsOf]

/-- A turn adds the alarms that it brings to the dashboards. -/
theorem alarmsOf_concat :
    alarmsOf (past ++ [turn]) = alarmsOf past + (turn.broadcasts "info").count .unreachable := by
  rw [alarmsOf, broadcastsOf_concat, List.count_append, alarmsOf]

end Runs

/-- The relay is in step with its polls: all it knows and has told of the game is theirs. -/
structure Relay.InStep (past : List Turn) (relay : Relay) : Prop where
  current : relay.live.current = latestState (takenStates past)
  newest : relay.newestTick =
    lastScoreboard ((toldSuccessions (takings past)).filterMap moveBetween?)
  degraded : relay.degraded = true ↔ (pollEnds past).getLast?.getD .missed = .missed
  finals : finalsOf past = (toldSuccessions (takings past)).filterMap stopBetween?
  finalTick : relay.live.finalTick =
    ((successions (takenStates past)).filterMap stopBetween?).getLast?
  moves : broadcastsOf past "scoreboard_tick" =
    ((toldSuccessions (takings past)).filterMap moveBetween?).map .scoreboardTick
  alarms : alarmsOf past = outages (pollEnds past)

namespace Relay.InStep

variable {past : List Turn} {turn : Turn}

/-- A relay that was asked nothing is in step with no poll. -/
theorem initial (notificationInterval : Nat) (preferences : Preferences) :
    Relay.InStep [] (.initial notificationInterval preferences) where
  -- There is no poll in front of the first turn, and the first state is what is shown.
  current := rfl
  newest := rfl
  degraded := iff_of_true rfl rfl
  finals := rfl
  finalTick := rfl
  moves := rfl
  alarms := rfl

/-- A turn that ends no poll leaves the relay in step. -/
theorem aside (inStep : turn.before.InStep past) (ends : turn.pollEnd? = none)
    (aside : turn.Aside) : turn.after.InStep (past ++ [turn]) := by
  -- The polls are those from before, and so is all that was told of them.
  have same : pollEnds (past ++ [turn]) = pollEnds past := by
    rw [pollEnds_concat, ends, Option.toList_none, List.append_nil]
  have states : takings (past ++ [turn]) = takings past := by
    rw [takings, same, takings]
  have finals : finalsOf (past ++ [turn]) = finalsOf past := by
    rw [finalsOf_concat, aside.finals, List.append_nil]
  constructor
  · rw [aside.live, takenStates, states, inStep.current, takenStates]
  · rw [aside.newest, states, inStep.newest]
  · rw [aside.degraded, same, inStep.degraded]
  · rw [finals, states, inStep.finals]
  · rw [aside.live, takenStates, states, inStep.finalTick, takenStates]
  · rw [broadcastsOf_concat, aside.moves, List.append_nil, states, inStep.moves]
  · rw [alarmsOf_concat, aside.alarms, same, inStep.alarms, Nat.add_zero]

/-- A poll that fails leaves the relay in step. -/
theorem missed (inStep : turn.before.InStep past) (quiet : turn.before.signals = [])
    (ends : turn.pollEnd? = some .missed) : turn.after.InStep (past ++ [turn]) := by
  have after : turn.after = turn.before.missState := Turn.after_of_pollEnd? ends
  obtain ⟨hub, signals, changed⟩ := turn.before.missState_eq
  have told := turn.before.tells_missState.signals
  rw [← after, quiet, List.nil_append] at told
  have polled : pollEnds (past ++ [turn]) = pollEnds past ++ [.missed] := by
    rw [pollEnds_concat, ends, Option.toList_some]
  have states : takings (past ++ [turn]) = takings past := by
    rw [takings_concat, ends]
    exact List.append_nil _
  -- At most the dashboards are told, and not that the game has come on.
  have finals : turn.finals = [] := by
    unfold Turn.finals Turn.events
    rw [told]
    split
    · rfl
    · split <;> rfl
  constructor
  · rw [after, changed, takenStates, states, inStep.current, takenStates]
  · rw [after, changed, states]
    exact inStep.newest
  · rw [after, changed, polled, List.getLast?_concat]
    exact iff_of_true rfl rfl
  · rw [finalsOf_concat, finals, List.append_nil, states, inStep.finals]
  · rw [after, changed, takenStates, states, inStep.finalTick, takenStates]
  · have moves : turn.broadcasts "scoreboard_tick" = [] := by
      unfold Turn.broadcasts
      rw [told]
      split <;> rfl
    rw [broadcastsOf_concat, moves, List.append_nil, states, inStep.moves]
  · -- The alarm is given when the relay was not degraded, so when the poll before did not fail.
    rw [alarmsOf_concat, polled, outages_concat, inStep.alarms, Turn.broadcasts, told]
    congr 1
    have news := inStep.degraded
    cases before : (pollEnds past).getLast?.getD .missed with
    | missed =>
      rw [if_pos (news.mpr before)]
      rfl
    | taken response holds =>
      rw [if_neg fun degraded => by simp [news.mp degraded] at before]
      rfl

/-- A poll that brings a state leaves the relay in step, whether it holds or breaks off. -/
theorem taken (inStep : turn.before.InStep past) (quiet : turn.before.signals = [])
    {response : StateResponse} {holds : Bool}
    (ends : turn.pollEnd? = some (.taken response holds)) :
    turn.after.InStep (past ++ [turn]) := by
  have after : turn.after =
      (turn.before.absorbState response turn.now.unix turn.jitter).1 := Turn.after_of_pollEnd? ends
  obtain ⟨bus, hub, signals, changed⟩ :=
    turn.before.absorbState_eq response turn.now.unix turn.jitter
  have polled : pollEnds (past ++ [turn]) = pollEnds past ++ [.taken response holds] := by
    rw [pollEnds_concat, ends, Option.toList_some]
  have states : takings (past ++ [turn]) = takings past ++ [(response.state, holds)] := by
    rw [takings_concat, ends]
    rfl
  have taken : takenStates (past ++ [turn]) = takenStates past ++ [response.state] := by
    rw [takenStates, states, List.map_append]
    rfl
  -- What there is to tell comes behind the state that the relay holds.
  have steps : toldSuccessions (takings (past ++ [turn])) = toldSuccessions (takings past) ++
      toldSuccession turn.before.live.current response.state holds := by
    rw [states, toldSuccessions_concat, inStep.current, takenStates]
  obtain ⟨finals, moves, alarms⟩ := Turn.told_of_taken quiet ends
  constructor
  · rw [after, changed, taken, latestState, List.getLast?_concat]
    rfl
  · rw [steps, List.filterMap_append]
    exact Turn.newestTick_of_taken ends inStep.newest
  · rw [after, changed, polled, List.getLast?_concat]
    exact iff_of_false Bool.false_ne_true PollEnd.noConfusion
  · rw [finalsOf_concat, finals, steps, List.filterMap_append, inStep.finals]
  · -- The last end of the game is the one of this turn, or the one before it.
    have last : turn.after.live.finalTick =
        (stopBetween? (turn.before.live.current, response.state)).or turn.before.live.finalTick := by
      rw [after, changed]
      rfl
    rw [last, inStep.finalTick, taken, successions_concat, List.filterMap_append,
      List.getLast?_append, ← inStep.current]
    cases stop : stopBetween? (turn.before.live.current, response.state) <;> simp [stop]
  · rw [broadcastsOf_concat, moves, steps, List.filterMap_append, List.map_append, inStep.moves]
  · -- A poll that brings a state is no outage.
    rw [alarmsOf_concat, alarms, polled, outages_concat, inStep.alarms]
    cases (pollEnds past).getLast?.getD .missed <;> rfl

end Relay.InStep

section Tasks

variable {past : List Turn} {turn : Turn}

/-- What a poll has brought stays brought. -/
theorem Brought.more {response : StateResponse} (brought : Brought past response) :
    Brought (past ++ [turn]) response := by
  obtain ⟨earlier, member, again, reply, polled⟩ := brought
  exact ⟨earlier, List.mem_append_left _ member, again, reply, polled⟩

/-- A state that polls have brought stays one that they have brought. -/
theorem Stage.Polled.more {stage : Stage} (polled : stage.Polled past) :
    stage.Polled (past ++ [turn]) := by
  -- Only the stages that take a state in say anything.
  cases stage with
  | entering parts step =>
    cases step with
    | absorbState again response => exact Brought.more polled
    | replaceState current => exact polled
    | _ => trivial
  | _ => trivial

/-- A plain stage takes no state in. -/
theorem Stage.Plain.polled {stage : Stage} (plain : stage.Plain) : stage.Polled past := by
  -- The stages that take a state in are not plain.
  cases stage with
  | entering parts step =>
    cases step with
    | absorbState again response => cases plain
    | replaceState current => cases plain
    | _ => trivial
  | _ => trivial

/-- What follows takes no state in when it is plain. -/
theorem Next.Plain.polled {next : Next} {stage : Stage} (plain : next.Plain)
    (waits : next = .wait stage) : stage.Polled past := by
  subst waits
  exact Stage.Plain.polled plain

/-- What becomes of a round once it is there is not that a state is taken in. -/
theorem Relay.finishRanking_polled {relay : Relay} {use : RankingUse} {tick : Tick}
    {result : Except ServiceError Snapshot} {stage : Stage}
    (waits : (relay.finishRanking use tick result).2 = .wait stage) : stage.Polled past := by
  -- A result is answered, which is plain, or goes on as a round for an overlay.
  rcases relay.finishRanking_next use tick result with plain | ⟨snapshot, _, next⟩
  · exact plain.polled waits
  · cases next.symm.trans waits
    trivial

/-- A task comes to take in a state by the reply to its poll only. -/
theorem Turn.Deed.next_polled (deed : turn.Deed)
    (own : ∀ stage ∈ turn.occasion.stages, stage.Polled past) {stage : Stage}
    (waits : turn.next = .wait stage) : stage.Polled (past ++ [turn]) := by
  cases deed with
  | goes goes after =>
    cases goes with
    | on plain => exact plain.polled waits
    | polls again reply response occasion answered next =>
      cases next.symm.trans waits
      exact ⟨turn, by simp, again, reply, occasion, answered⟩
    | queued parts step occasion next =>
      -- One part of the shared state nearer, the task is about the same state as before.
      cases next.symm.trans waits
      have waited := own (.entering parts step) (by simp [occasion, Occasion.stages])
      cases step with
      | absorbState again response => exact Brought.more waited
      | replaceState current => exact waited.elim
      | _ => trivial
    | asks use tick asks next =>
      rw [next] at waits
      rcases turn.before.askRanking_cases use tick with
        ⟨_, asked⟩ | ⟨_, snapshot, _, asked⟩ | ⟨_, _, asked⟩
      · rw [asked] at waits
        exact Relay.finishRanking_polled waits
      · rw [asked] at waits
        cases waits
        trivial
      · rw [asked] at waits
        cases waits
        trivial
    | givesUp use tick retry reply problem occasion next =>
      exact Relay.finishRanking_polled (next.symm.trans waits)
    | weighs parts winners occasion next =>
      rw [next] at waits
      split at waits
      · cases waits
        trivial
      · cases waits
    | spawned task occasion next => cases next.symm.trans waits; trivial
    | awaits tick occasion next => cases next.symm.trans waits; trivial
    | retries use tick retry deadline occasion next => cases next.symm.trans waits; trivial
    | pauses use tick retry again deadline reply occasion next =>
      cases next.symm.trans waits
      trivial
  | settles parts use tick snapshot occasion last after next =>
    exact Relay.finishRanking_polled (next.symm.trans waits)
  | stores use tick retry reply round occasion served after next =>
    cases next.symm.trans waits
    trivial
  | names parts tick round occasion last after next => cases next.symm.trans waits; trivial
  | keeps parts winners occasion last after next => cases next.symm.trans waits; trivial
  | plays parts winners occasion last after next => cases next.symm.trans waits
  | _ => exact ‹turn.next.Plain›.polled waits

end Tasks

section Runs

variable {backend : Backend} {notificationInterval : Nat} {preferences : Preferences}
  {tasks : List NewTask} {past : List Turn} {world : World}

/-- At every moment of a run, the tasks take in no state but those that polls have brought. -/
theorem Run.polled
    (run : Run backend (.initial notificationInterval preferences tasks) past world) :
    ∀ stage ∈ world.tasks, stage.Polled past := by
  -- The induction is on the run: a new task takes nothing in, and any other has its state of a
  -- poll.
  induction run with
  | begin =>
    intro stage waits
    obtain ⟨task, _, rfl⟩ := List.mem_map.mp waits
    trivial
  | @step past world later turn run step ih =>
    intro stage waits
    rcases step.tasks_mem waits with before | next | ⟨task, rfl⟩
    · exact (ih stage before).more
    · exact step.deed.next_polled (fun other taken => ih other (step.occasion_mem taken)) next
    · trivial

/-- A state that is taken in was brought by a poll. -/
theorem Run.brought
    (run : Run backend (.initial notificationInterval preferences tasks) past world) :
    ∀ response holds, .taken response holds ∈ pollEnds past → Brought past response := by
  -- The task that takes a state in has waited to do so since its poll was answered.
  induction run with
  | begin => exact fun _ _ member => nomatch member
  | @step past world later turn run step ih =>
    intro response holds member
    rw [pollEnds_concat, List.mem_append] at member
    rcases member with before | now
    · exact (ih response holds before).more
    · obtain ⟨⟨parts, again, occasion⟩, _⟩ :=
        Turn.occasion_of_taken (Option.mem_toList.mp now)
      have taken : .entering parts (.absorbState again response) ∈ turn.occasion.stages := by
        simp [occasion, Occasion.stages]
      exact Brought.more (run.polled _ (step.occasion_mem taken))

/-- At every moment of a run, the relay is in step with its polls. -/
theorem Run.inStep
    (run : Run backend (.initial notificationInterval preferences tasks) past world) :
    world.relay.InStep past := by
  induction run with
  | begin => exact .initial notificationInterval preferences
  | @step past world later turn run step ih =>
    have quiet : turn.before.signals = [] := step.before ▸ run.quiet rfl
    rw [← step.before] at ih
    have after : turn.after.InStep (past ++ [turn]) := by
      cases ends : turn.pollEnd? with
      | none =>
        refine ih.aside ends (step.deed.aside quiet ends fun parts current occasion => ?_)
        -- No task has come to replace the state.
        have taken : .entering parts (.replaceState current) ∈ turn.occasion.stages := by
          simp [occasion, Occasion.stages]
        exact run.polled _ (step.occasion_mem taken)
      | some ended =>
        cases ended with
        | missed => exact ih.missed quiet ends
        | taken response => exact ih.taken quiet ends
    rw [step.relay]
    exact ⟨after.current, after.newest, after.degraded, after.finals, after.finalTick, after.moves,
      after.alarms⟩

/--
What the relay knows of the game, and has told of it, is what its polls say.

At every moment of a run, whatever tasks share the relay, the state of the game is the latest that was
taken in, with the teams it bans in ascending order, and every state that is taken in was brought by a
poll. The relay is degraded before the first poll and after one that failed. The final tick is that of
the last two states, one right behind the other, between which the game stopped.

A poll breaks off when the document that it brings cannot be timed, and then tells nobody. Of all other
states, the bus was told of every stop and the dashboards of every scoreboard that moved, and the
newest tick is that of the last such scoreboard. Where no poll broke off, these are all states, and the
newest tick is the one of the scoreboard. The dashboards have heard of every poll that failed right
behind one that did not. The bus and the hub hold the end of all that they were told, and the hub
keeps the last move for dashboards to come.
-/
theorem relay_in_step_with_polls
    (run : Run backend (.initial notificationInterval preferences tasks) past world) :
    world.relay.live.current = latestState (takenStates past) ∧
      (∀ response holds, .taken response holds ∈ pollEnds past → Brought past response) ∧
      world.relay.live.banned.Pairwise (· < ·) ∧
      (∀ team, world.relay.live.isBanned team = true ↔
        ∃ teams, (latestState (takenStates past)).bannedTeams = some teams ∧ team ∈ teams) ∧
      (world.relay.degraded = true ↔
        pollEnds past = [] ∨ (pollEnds past).getLast? = some .missed) ∧
      world.relay.live.finalTick =
        ((successions (takenStates past)).filterMap stopBetween?).getLast? ∧
      (∀ turn ∈ past, ∀ response holds, turn.pollEnd? = some (.taken response holds) →
        (holds = true ↔ response.state.Timed (unixSecondOf turn.now.unix))) ∧
      finalsOf past = (toldSuccessions (takings past)).filterMap stopBetween? ∧
      broadcastsOf past "scoreboard_tick" =
        ((toldSuccessions (takings past)).filterMap moveBetween?).map .scoreboardTick ∧
      world.relay.newestTick =
        lastScoreboard ((toldSuccessions (takings past)).filterMap moveBetween?) ∧
      ((∀ response, .taken response false ∉ pollEnds past) →
        toldSuccessions (takings past) = successions (takenStates past) ∧
          world.relay.newestTick = world.relay.scoreboardTick) ∧
      alarmsOf past = outages (pollEnds past) ∧
      world.relay.bus.events.Holds 64 (past.flatMap Turn.events) ∧
      world.relay.hub.channel.Holds 32 (announcementsOf past) ∧
      (∀ name, broadcastsOf past name =
        (announcementsOf past).filter fun event => event.event = some name) ∧
      world.relay.hub.latest? "scoreboard_tick" = (broadcastsOf past "scoreboard_tick").getLast? := by
  -- Every part is read off what a whole run keeps, with the told states counted out of the taken.
  have inStep := run.inStep
  refine ⟨inStep.current, run.brought, CurrentState.bannedSet_ascending _, fun team => ?_, ?_,
    inStep.finalTick, fun _ _ _ _ ends => Turn.holds_iff_timed ends, inStep.finals, inStep.moves,
    inStep.newest, fun held => ?_, inStep.alarms, run.bus_holds, run.hub_holds, broadcastsOf_eq past,
    run.latest? (by decide)⟩
  · rw [← inStep.current, LiveState.isBanned, List.contains_iff_mem]
    exact CurrentState.mem_bannedSet
  · rw [inStep.degraded]
    cases last : (pollEnds past).getLast? with
    | none => simp [List.getLast?_eq_none_iff.mp last]
    | some ended =>
      have some : pollEnds past ≠ [] := fun none => by simp [none] at last
      simp [some]
  · -- The last scoreboard that moved is that of the latest state, if nothing went untold.
    have all : toldSuccessions (takings past) = successions (takenStates past) :=
      toldSuccessions_of_held (held_takings held)
    refine ⟨all, ?_⟩
    rw [inStep.newest, all, lastScoreboard_moves, Relay.scoreboardTick, inStep.current]

end Runs

namespace Sample

/-- The only poll that says that the game has stopped. -/
def stopReply (tick : Tick) : Reply :=
  .answered 200 none <| some <| Codec.currentState.write ⟨tick, .stopped, 1000, tick, some [7, 3]⟩

/-- A poll by itself, which fails. -/
def missedPoll : List Choice :=
  [.call .poll, .reply 0 .unanswered]

/-- The game stops while the backend cannot be reached. -/
def unseenStop : List (Moment × Choice) :=
  madeAt 0 (poll 5 ++ missedPoll ++ missedPoll ++
    [.call .poll, .reply 0 (stopReply 6), .ready 0])

end Sample

set_option maxRecDepth 100000 in
/-- The relay makes up for a stop that it did not see, and tells of two failed polls once. -/
theorem unseen_stop_made_up_for : ∃ past world, Run Sample.backend Sample.start past world ∧
    finalsOf past = [6] ∧ alarmsOf past = 1 ∧ world.relay.newestTick = 6 ∧
      world.relay.degraded = false ∧ world.relay.live.isBanned 3 = true := by
  -- The run is replayed, and the theorem is read for the four polls it ends with.
  have replayed : (Sample.start.replay Sample.answers [] Sample.unseenStop).map
      (fun reached => pollEnds reached.1) =
      some [.taken ⟨⟨5, .running, 1000, 5, none⟩, none⟩ true, .missed, .missed,
        .taken ⟨⟨6, .stopped, 1000, 6, some [7, 3]⟩, none⟩ true] := by decide +kernel
  obtain ⟨past, world, run, ends⟩ := Run.of_replay replayed
  have states : takings past =
      [(⟨5, .running, 1000, 5, none⟩, true), (⟨6, .stopped, 1000, 6, some [7, 3]⟩, true)] := by
    rw [takings, ends]
    rfl
  obtain ⟨-, -, -, banned, degraded, -, -, finals, -, newest, -, alarms, -⟩ :=
    relay_in_step_with_polls run
  rw [states] at finals newest
  rw [takenStates, states] at banned
  refine ⟨past, world, run, finals.trans (by decide), ?_, newest.trans (by decide), ?_, ?_⟩
  · rw [alarms, ends]
    rfl
  · rw [Bool.eq_false_iff]
    intro missed
    have last := degraded.mp missed
    rw [ends] at last
    revert last
    decide
  · exact (banned 3).mpr ⟨_, rfl, by decide⟩

namespace Sample

/-- The only poll, which says that the tick ended before all time. -/
def longOverReply : Reply :=
  .answered 200 none <| some <| Codec.currentState.write ⟨5, .suspended, .minValue, 4, none⟩

/-- A poll at the second 1700000000, which brings a document that cannot be timed then. -/
def longOverPoll : List (Moment × Choice) :=
  [Choice.call .poll, .reply 0 longOverReply, .ready 0].map fun choice =>
    (⟨0, 1700000000000⟩, choice)

end Sample

set_option maxRecDepth 100000 in
/-- A poll that breaks off moves the scoreboard of the relay, and nobody is told. -/
theorem move_untold_by_broken_poll : ∃ past world, Run Sample.backend Sample.start past world ∧
    takenStates past = [⟨5, .suspended, .minValue, 4, none⟩] ∧ world.relay.scoreboardTick = 4 ∧
      world.relay.newestTick = -1 ∧ world.relay.degraded = false ∧
      broadcastsOf past "scoreboard_tick" = [] := by
  -- The run is replayed, and what it ends with is compared.
  have replayed : (Sample.start.replay Sample.answers [] Sample.longOverPoll).map
      (fun reached => (takenStates reached.1, reached.2.relay.scoreboardTick,
        reached.2.relay.newestTick, reached.2.relay.degraded,
        (broadcastsOf reached.1 "scoreboard_tick").length)) =
      some ([⟨5, .suspended, .minValue, 4, none⟩], 4, -1, false, 0) := by decide +kernel
  obtain ⟨past, world, run, reached⟩ := Run.of_replay replayed
  simp only [Prod.mk.injEq, List.length_eq_zero_iff] at reached
  exact ⟨past, world, run, reached⟩

end Scoreboard
