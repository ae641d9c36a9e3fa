import Scoreboard.Proofs.Pacing.Delay
import Scoreboard.Proofs.Relay.Documents
import Scoreboard.Proofs.Relay.Signals

/-! How polls end, and what the ends of all polls of a run say about the game. -/

namespace Scoreboard

/-- How a poll ends. -/
inductive PollEnd
  /-- The backend does not say where the game stands. -/
  | missed
  /-- The state of the game is taken in, and told of if the poll holds and does not break off. -/
  | taken (response : StateResponse) (holds : Bool)
deriving DecidableEq, Repr

/-- The state of the game that a poll brings, with whether the poll holds, none when it failed. -/
def PollEnd.taking? : PollEnd → Option (CurrentState × Bool)
  | .missed => none
  | .taken response holds => some (response.state, holds)

/-- How a poll ends in a turn, none for a turn that ends no poll. -/
def Turn.pollEnd? (turn : Turn) : Option PollEnd :=
  match turn.occasion with
  | .reply (.polling _) reply =>
    match reply.stateResponse with
    | .ok _ => none
    | .error _ => some .missed
  -- A response is taken in behind the part of the shared state that it goes to.
  | .ready (.entering parts (.absorbState _ response)) =>
    if 1 < parts then none
    else
      -- Without a delay until the next poll, the poll breaks off.
      let delay := nextPollDelay? response.state (unixSecondOf turn.now.unix) turn.jitter
      some (.taken response delay.isSome)
  | _ => none

/-- How the polls of a run ended, in their order. -/
def pollEnds (past : List Turn) : List PollEnd :=
  past.filterMap Turn.pollEnd?

/-- The states of the game that were taken in, in their order, with whether their polls held. -/
def takings (past : List Turn) : List (CurrentState × Bool) :=
  (pollEnds past).filterMap PollEnd.taking?

/-- The states of the game that were taken in, in their order. -/
def takenStates (past : List Turn) : List CurrentState :=
  (takings past).map Prod.fst

/-- The state of the game after all others, unknown before the first. -/
def latestState (states : List CurrentState) : CurrentState :=
  states.getLast?.getD .unknown

/-- Each state behind the one before it, the first behind that of a game nobody has heard of. -/
def successions (states : List CurrentState) : List (CurrentState × CurrentState) :=
  (CurrentState.unknown :: states).zip states

/-- Each state whose poll held, behind the one before it, whether the poll of that held or not. -/
def toldSuccessions (takings : List (CurrentState × Bool)) : List (CurrentState × CurrentState) :=
  (((successions (takings.map Prod.fst)).zip (takings.map Prod.snd)).filter Prod.snd).map Prod.fst

/-- The tick at which the game stops between two states. -/
def stopBetween? (states : CurrentState × CurrentState) : Option Tick :=
  if states.1.state = .running ∧ states.2.state = .stopped then some states.2.currentTick else none

/-- The later one of two states, when its scoreboard is another. -/
def moveBetween? (states : CurrentState × CurrentState) : Option CurrentState :=
  if states.1.scoreboardTick ≠ states.2.scoreboardTick then some states.2 else none

/-- What a poll has to tell of: the state that it brings behind the one before it, if it holds. -/
def toldSuccession (before later : CurrentState) (holds : Bool) :
    List (CurrentState × CurrentState) :=
  if holds then [(before, later)] else []

/-- What is told of a state behind another: the stop of the game, then the scoreboard that moved. -/
def successionSignals (states : CurrentState × CurrentState) : List Signal :=
  (stopBetween? states).toList.map (fun tick => .event (.final tick)) ++
    (moveBetween? states).toList.flatMap fun later =>
      [.newestTick later.scoreboardTick, .broadcast (.scoreboardTick later)]

/-- The tick of the last scoreboard in a list of states, and a tick before all when there is none. -/
def lastScoreboard (states : List CurrentState) : Tick :=
  (states.getLast?.map CurrentState.scoreboardTick).getD (-1)

/-- A poll that failed right behind one that did not. -/
def isOutage : PollEnd × PollEnd → Bool
  | (.taken _ _, .missed) => true
  | _ => false

/-- How often a poll failed right behind one that did not. -/
def outages (ends : List PollEnd) : Nat :=
  (ends.zip ends.tail).countP isOutage

/-- What is told of a state that is taken in is what is told of it behind the state before. -/
theorem LiveState.signals_transitionTo (live : LiveState) (next : CurrentState) :
    (live.transitionTo next).signals next = successionSignals (live.current, next) := by
  -- Both tell of the stop first and of the new scoreboard behind it.
  have stop : (live.transitionTo next).finishedAt = stopBetween? (live.current, next) := rfl
  have move : (live.transitionTo next).scoreboardTickChanged =
      (moveBetween? (live.current, next)).map CurrentState.scoreboardTick := by
    unfold moveBetween? transitionTo
    dsimp only
    split <;> rfl
  rw [Transition.signals, stop, move, successionSignals]
  congr 1
  · cases stopBetween? (live.current, next) <;> rfl
  · -- A state behind another is the later one of the two.
    unfold moveBetween?
    split <;> rfl

section Lists

variable {α : Type}

/-- Neighbours in a list that gets longer: those from before, and its last element with the new one. -/
theorem zip_concat (first : α) (rest : List α) (last : α) :
    (first :: (rest ++ [last])).zip (rest ++ [last]) =
      (first :: rest).zip rest ++ [(rest.getLast?.getD first, last)] := by
  -- Each element in front of the last is a neighbour as it was.
  induction rest generalizing first with
  | nil => rfl
  | cons second rest ih =>
    rw [List.cons_append, List.zip_cons_cons, ih, List.zip_cons_cons, List.cons_append,
      List.getLast?_cons]
    rfl

end Lists

/-- Another state comes behind the latest one. -/
theorem successions_concat (states : List CurrentState) (next : CurrentState) :
    successions (states ++ [next]) = successions states ++ [(latestState states, next)] :=
  zip_concat _ states next

/-- There are as many successions as states, since the first state has one before it too. -/
theorem length_successions (states : List CurrentState) :
    (successions states).length = states.length := by
  simp [successions]

/-- Another state that is taken in is told of behind the latest one, if its poll holds. -/
theorem toldSuccessions_concat (takings : List (CurrentState × Bool)) (next : CurrentState)
    (holds : Bool) : toldSuccessions (takings ++ [(next, holds)]) =
      toldSuccessions takings ++ toldSuccession (latestState (takings.map Prod.fst)) next holds := by
  -- The states and the polls that brought them stay side by side.
  have aligned : (successions (takings.map Prod.fst)).length = (takings.map Prod.snd).length := by
    rw [length_successions, List.length_map, List.length_map]
  simp only [toldSuccessions, List.map_append, List.map_cons, List.map_nil, successions_concat]
  rw [List.zip_append aligned, List.filter_append, List.map_append]
  cases holds <;> rfl

/-- Where all polls held, every state was told of behind the one before it. -/
theorem toldSuccessions_of_held {takings : List (CurrentState × Bool)}
    (held : ∀ taking ∈ takings, taking.2 = true) :
    toldSuccessions takings = successions (takings.map Prod.fst) := by
  -- From the end, since a state is told of behind all states before it.
  induction takings using List.reverseRecOn with
  | nil => rfl
  | append_singleton rest last ih =>
    obtain ⟨next, holds⟩ := last
    have now : holds = true := held (next, holds) (by simp)
    rw [toldSuccessions_concat, ih fun taking member => held taking (by simp [member]), now,
      List.map_append, List.map_singleton, successions_concat]
    rfl

/-- The scoreboard of a state that comes last is the last one. -/
theorem lastScoreboard_concat (states : List CurrentState) (last : CurrentState) :
    lastScoreboard (states ++ [last]) = last.scoreboardTick := by
  rw [lastScoreboard, List.getLast?_concat]
  rfl

/-- The last scoreboard that moved is the scoreboard of the latest state. -/
theorem lastScoreboard_moves (states : List CurrentState) :
    lastScoreboard ((successions states).filterMap moveBetween?) =
      (latestState states).scoreboardTick := by
  -- A state whose scoreboard did not move has that of the state before it.
  induction states using List.reverseRecOn with
  | nil => rfl
  | append_singleton rest next ih =>
    have latest : latestState (rest ++ [next]) = next := by
      rw [latestState, List.getLast?_concat]
      rfl
    rw [successions_concat, List.filterMap_append, latest]
    by_cases moved : (latestState rest).scoreboardTick ≠ next.scoreboardTick
    · have move : [(latestState rest, next)].filterMap moveBetween? = [next] := by
        simp [moveBetween?, moved]
      rw [move, lastScoreboard_concat]
    · have still : [(latestState rest, next)].filterMap moveBetween? = [] := by
        simp [moveBetween?, moved]
      rw [still, List.append_nil, ih]
      exact not_not.mp moved

/-- Another end of a poll is an outage when it failed and the one before did not. -/
theorem outages_concat (ends : List PollEnd) (last : PollEnd) :
    outages (ends ++ [last]) =
      outages ends + [(ends.getLast?.getD .missed, last)].countP isOutage := by
  -- The first poll has none before it, and makes no outage.
  cases ends with
  | nil => cases last <;> rfl
  | cons first rest =>
    have neighbours : outages (first :: (rest ++ [last])) =
        ((first :: (rest ++ [last])).zip (rest ++ [last])).countP isOutage := rfl
    rw [List.cons_append, neighbours, zip_concat, List.countP_append, List.getLast?_cons]
    rfl

section Runs

variable {past : List Turn} {turn : Turn}

/-- A turn adds the end of a poll to those before it, if it ends one. -/
theorem pollEnds_concat : pollEnds (past ++ [turn]) = pollEnds past ++ turn.pollEnd?.toList := by
  cases ends : turn.pollEnd? <;> simp [pollEnds, ends]

/-- A turn adds a state to those before it, if it ends a poll that brings one. -/
theorem takings_concat : takings (past ++ [turn]) =
    takings past ++ (turn.pollEnd?.bind PollEnd.taking?).toList := by
  cases ends : turn.pollEnd? with
  | none => simp [takings, pollEnds_concat, ends]
  | some ended => cases ended <;> simp [takings, pollEnds_concat, ends, PollEnd.taking?]

/-- Every state that was taken in came of a poll that held, when no poll of the run broke off. -/
theorem held_takings (held : ∀ response, .taken response false ∉ pollEnds past) :
    ∀ taking ∈ takings past, taking.2 = true := by
  -- A poll that broke off would be among the ends of the polls.
  intro taking member
  obtain ⟨ended, among, brings⟩ := List.mem_filterMap.mp member
  cases ended with
  | missed => cases brings
  | taken response holds =>
    cases brings
    cases holds with
    | true => rfl
    | false => exact absurd among (held response)

end Runs

namespace Turn

variable {turn : Turn}

/-- What a turn does that ends a poll. -/
theorem after_of_pollEnd? {ended : PollEnd} (ends : turn.pollEnd? = some ended) :
    turn.after = match ended with
      | .missed => turn.before.missState
      | .taken response _ =>
        (turn.before.absorbState response turn.now.unix turn.jitter).1 := by
  unfold pollEnd? at ends
  split at ends
  · rename_i again reply occasion
    -- A poll that is answered goes on to another stage.
    split at ends
    · cases ends
    · rename_i problem failed
      cases ends
      simp only [Turn.after, Turn.result, occasion, Relay.resumeWithReply, failed,
        Relay.continuePoll, Relay.afterPoll_relay]
  · rename_i parts again response occasion
    split at ends
    · cases ends
    · rename_i last
      cases ends
      simp only [Turn.after, Turn.result, occasion, Relay.resume, if_neg last, Relay.perform,
        Relay.afterPoll_relay]
  · cases ends

/-- A state is taken in behind a part of the shared state, and its poll holds if it has a delay. -/
theorem occasion_of_taken {response : StateResponse} {holds : Bool}
    (ends : turn.pollEnd? = some (.taken response holds)) :
    (∃ parts again, turn.occasion = .ready (.entering parts (.absorbState again response))) ∧
      (nextPollDelay? response.state (unixSecondOf turn.now.unix) turn.jitter).isSome = holds := by
  -- Of the turns in which a poll ends, only this one takes a state in.
  unfold pollEnd? at ends
  split at ends
  · split at ends <;> cases ends
  · rename_i parts again other occasion
    split at ends
    · cases ends
    · cases ends
      exact ⟨⟨parts, again, occasion⟩, rfl⟩
  · cases ends

/-- What a poll that brings a state tells of: this state behind the one before it, if it holds. -/
theorem tells_of_taken {response : StateResponse} {holds : Bool}
    (ends : turn.pollEnd? = some (.taken response holds)) : turn.before.Tells turn.after
      ((toldSuccession turn.before.live.current response.state holds).flatMap
        successionSignals) := by
  -- The deed of the turn says what is told, and a poll that breaks off tells of nothing.
  have after : turn.after =
      (turn.before.absorbState response turn.now.unix turn.jitter).1 := after_of_pollEnd? ends
  have tells := turn.before.tells_absorbState response turn.now.unix turn.jitter
  rw [← after, (occasion_of_taken ends).2] at tells
  cases holds with
  | false => exact tells
  | true =>
    rw [if_pos rfl, LiveState.signals_transitionTo] at tells
    simpa only [toldSuccession, if_pos, List.flatMap_singleton] using tells

/-- A poll holds exactly when the document that it brings can be timed. -/
theorem holds_iff_timed {response : StateResponse} {holds : Bool}
    (ends : turn.pollEnd? = some (.taken response holds)) :
    holds = true ↔ response.state.Timed (unixSecondOf turn.now.unix) := by
  rw [← (occasion_of_taken ends).2]
  exact CurrentState.isSome_nextPollDelay?_iff

end Turn

end Scoreboard
