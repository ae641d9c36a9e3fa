import Scoreboard.Proofs.Relay.Documents

/-! Every history that is kept is one that the backend has told or will tell. -/

namespace Scoreboard

/--
A backend whose rounds and histories agree, given the history of each team as of each tick.

Where two ticks list the same services, the results of the second carry the histories on.
-/
structure Backend.Consistent (backend : Backend) (rounds : Tick → Round)
    (histories : Tick → TeamId → PointHistory) : Prop where
  serves : backend.Informs (.ofRounds rounds)
  /-- A history is told as of some tick, not always the newest. -/
  tells : ∀ team reply history, backend (.teamHistory team) reply →
    reply.document (.teamHistory team) .teamHistory = .ok history →
      ∃ tick, 0 ≤ tick ∧ history.points = histories tick team
  dated : ∀ tick, 0 ≤ tick → (rounds tick).tick = tick
  ranked : ∀ tick, 0 ≤ tick → ∀ rank ∈ (rounds tick).scoreboard,
    rank.services.length = (rounds tick).services.length
  shaped : ∀ tick, 0 ≤ tick → ∀ team,
    (histories tick team).length = (rounds tick).services.length
  covering : ∀ tick, 0 ≤ tick → ∀ team, ∀ series ∈ histories tick team,
    series.length = tick.toInt.toNat + 1
  grows : ∀ tick, 0 < tick → (rounds (tick - 1)).serviceNames = (rounds tick).serviceNames →
    ∀ team rank, (rounds tick).rankOf? team = some rank →
      ∀ (place : Nat) (series : List Float) (result : ServiceResult),
        (histories (tick - 1) team)[place]? = some series → rank.services[place]? = some result →
          (histories tick team)[place]? = some (series ++ [result.total])

/-- Every history that a relay keeps is the one of its team as of some tick. -/
def Relay.Faithful (histories : Tick → TeamId → PointHistory) (relay : Relay) : Prop :=
  ∀ team history, (team, history) ∈ relay.histories.histories.entries →
    ∃ tick, 0 ≤ tick ∧ history = histories tick team

namespace HistoryCache

/-- Totals are put to the ends of as many series as have a result. -/
theorem getElem?_appendTotals (history : PointHistory) :
    ∀ (results : List ServiceResult) (place : Nat), (appendTotals history results)[place]? =
      (history[place]?).map fun series => match results[place]? with
        | some result => series ++ [result.total]
        | none => series := by
  -- The induction walks along the series, and the results run out first or not.
  induction history with
  | nil => simp [appendTotals]
  | cons series history ih =>
    intro results place
    cases results with
    | nil => simp [appendTotals]
    | cons result results =>
      cases place with
      | zero => rfl
      | succ place => simpa [appendTotals] using ih results place

end HistoryCache

/-- A tick that is one more than another, counted from zero, is the tick behind it. -/
theorem Tick.eq_pred_of_toNat {tick earlier : Tick} (counted : 0 ≤ earlier)
    (next : tick.toInt.toNat = earlier.toInt.toNat + 1) : earlier = tick - 1 ∧ 0 < tick := by
  -- Among integers the step is plain, and neither end of the range is near.
  have whole : 0 ≤ earlier.toInt := Int64.le_iff_toInt_le.mp counted
  have positive : 1 ≤ tick := by
    rw [Int64.le_iff_toInt_le, Int64.toInt_one]
    omega
  refine ⟨?_, by grind⟩
  rw [← Int64.toInt_inj, Int64.toInt_sub_of_le tick 1 (by decide) positive, Int64.toInt_one]
  omega

/-- A history that a round carries on is the one of the tick in front of it, and becomes its own. -/
theorem Backend.Consistent.extension {backend : Backend} {rounds : Tick → Round}
    {histories : Tick → TeamId → PointHistory} (consistent : backend.Consistent rounds histories)
    {tick asOf : Tick} (counted : 0 ≤ tick) (past : 0 ≤ asOf)
    (same : (rounds (tick - 1)).serviceNames = (rounds tick).serviceNames) {team : TeamId}
    {extended : PointHistory}
    (carried : HistoryCache.extension? (rounds tick) team (histories asOf team) = some extended) :
    extended = histories tick team := by
  unfold HistoryCache.extension? at carried
  rw [consistent.dated tick counted] at carried
  split at carried
  · rename_i next
    obtain ⟨rank, ranked, rfl⟩ := Option.map_eq_some_iff.mp carried
    -- The length of the first series tells the tick of the history.
    obtain ⟨first, headed, length⟩ := Option.map_eq_some_iff.mp next.1
    have covered := consistent.covering asOf past team first (List.mem_of_mem_head? headed)
    obtain ⟨rfl, positive⟩ := Tick.eq_pred_of_toNat past (length.symm.trans covered)
    -- Both ticks list as many services, and so do the rank and the histories.
    have services : (rounds (tick - 1)).services.length = (rounds tick).services.length := by
      simpa [Round.serviceNames] using congrArg List.length same
    have results := consistent.ranked tick counted rank (List.mem_of_find?_eq_some ranked)
    have before := consistent.shaped (tick - 1) past team
    have after := consistent.shaped tick counted team
    refine List.ext_getElem? fun place => ?_
    rw [HistoryCache.getElem?_appendTotals]
    by_cases inside : place < (rounds tick).services.length
    · -- At the place of a service there are a series and a result, and the backend adds them alike.
      obtain ⟨series, held⟩ : ∃ series, (histories (tick - 1) team)[place]? = some series :=
        ⟨_, List.getElem?_eq_getElem (by omega)⟩
      obtain ⟨result, given⟩ : ∃ result, rank.services[place]? = some result :=
        ⟨_, List.getElem?_eq_getElem (by omega)⟩
      rw [consistent.grows tick positive same team rank ranked place series result held given, held,
        given]
      rfl
    · -- Behind the last service there is nothing on either side.
      have beyond : (histories (tick - 1) team)[place]? = none :=
        List.getElem?_eq_none (by omega)
      have beyondToo : (histories tick team)[place]? = none := List.getElem?_eq_none (by omega)
      rw [beyond, beyondToo]
      rfl
  · cases carried

section Faithful

variable {backend : Backend} {rounds : Tick → Round} {histories : Tick → TeamId → PointHistory}

/-- A round that is processed leaves only histories of their teams as of some tick. -/
theorem Relay.Faithful.processRound (consistent : backend.Consistent rounds histories)
    {relay : Relay} (faithful : relay.Faithful histories) {tick : Tick} (counted : 0 ≤ tick) :
    (relay.processRound (rounds (tick - 1)) (rounds tick)).Faithful histories := by
  intro team history kept
  rw [Relay.processRound_histories] at kept
  obtain ⟨former, held, becomes⟩ := Table.mem_mapEntries kept
  split at held
  · -- Other services are listed, and no history outlives that.
    cases held
  · rename_i unchanged
    have same : (rounds (tick - 1)).serviceNames = (rounds tick).serviceNames := by
      simpa [servicesChanged] using unchanged
    obtain ⟨asOf, past, rfl⟩ := faithful team former held
    -- The history is carried on to this tick, or stays the one of its own.
    cases carried : HistoryCache.extension? (rounds tick) team (histories asOf team) with
    | none => exact ⟨asOf, past, by simpa [carried] using becomes⟩
    | some extended =>
      refine ⟨tick, counted, ?_⟩
      rw [← consistent.extension counted past same carried]
      simpa [carried] using becomes

/-- A history that is put into the cache adds no entry but its own. -/
theorem HistoryCache.mem_put {cache : HistoryCache} {team : TeamId} {history : PointHistory}
    {entry : TeamId × PointHistory}
    (member : entry ∈ (cache.put team history).histories.entries) :
    entry = (team, history) ∨ entry ∈ cache.histories.entries := by
  -- An empty history is not put anywhere.
  unfold HistoryCache.put at member
  split at member
  · exact .inr member
  · exact Table.mem_insert member

/-- A step keeps every history that of its team as of some tick. -/
theorem World.Step.faithful (consistent : backend.Consistent rounds histories)
    {world later : World} {turn : Turn} (step : world.Step backend turn later)
    (sound : world.Sound (.ofRounds rounds)) (faithful : world.relay.Faithful histories) :
    later.relay.Faithful histories := by
  rw [← step.before] at faithful
  have after : turn.after.Faithful histories := by
    cases step.deed.deals with
    | settling tick snapshot looked after =>
      rw [after]
      rcases turn.before.settleRound_cases tick snapshot.round with
        ⟨previous, _, follows, _, settled⟩ | ⟨_, settled⟩
      · -- Both rounds are the ones of their ticks, so the histories go on as the backend says.
        obtain ⟨counted, served⟩ := step.check_sound sound looked
        rw [step.before] at follows
        have before : previous.round = rounds (tick - 1) := (sound.relay _ _ follows).2
        have claimed : Relay.Faithful histories
          { turn.before with rounds := turn.before.rounds.claim tick } := faithful
        rw [settled, served, before]
        exact claimed.processRound consistent counted
      · rw [settled]
        exact faithful
    | storing use tick retry reply round occasion served after next =>
      rw [after]
      exact faithful
    | filing use team retry reply history occasion served after =>
      rw [after]
      have due := step.due
      rw [Turn.IsDue, occasion] at due
      obtain ⟨endpoint, waits, answered⟩ := due
      cases waits
      -- The reply was asked for as the history of this team, so the backend told it as such.
      intro other kept member
      rcases HistoryCache.mem_put member with same | earlier
      · cases same
        exact consistent.tells team reply history answered served
      · exact faithful other kept earlier
    | aside unchecked after =>
      have same : turn.after.histories = turn.before.histories := congrArg Prod.snd after
      intro team history kept
      rw [same] at kept
      exact faithful team history kept
  rw [step.relay]
  exact after

/--
At every moment of a run, each history in the cache is exactly the one of its team as of some tick.

Requests may overlap and end in any order, the newest tick may move in any way, and services may
come and go.
-/
theorem histories_faithful {notificationInterval : Nat} {preferences : Preferences}
    {tasks : List NewTask} {past : List Turn} {world : World}
    (consistent : backend.Consistent rounds histories)
    (run : Run backend (.initial notificationInterval preferences tasks) past world) :
    ∀ team history, (team, history) ∈ world.relay.histories.histories.entries →
      ∃ tick, 0 ≤ tick ∧ history = histories tick team := by
  -- Before the first turn there is no history, and each turn keeps those there are right.
  induction run with
  | begin => exact fun team history kept => (List.not_mem_nil kept).elim
  | step run step ih =>
    exact step.faithful consistent
      (run.sound consistent.serves (World.initial_sound _ _ _ _)) ih

end Faithful

namespace Sample

/-- The history that is told, whatever the team. -/
def toldHistory : PointHistory :=
  ((historyReply.document .teams .teamHistory).toOption.map TeamHistory.points).getD []

/-- What a team gets from the service at a place in the round of a tick, if it is ranked there. -/
def earned (tick : Tick) (team : TeamId) (place : Nat) : Float :=
  (((round tick).rankOf? team).bind fun rank =>
    rank.services[place]?.map ServiceResult.total).getD 0.0

/-- The history of a team: told as of tick 5, carried on at tick 6, and empty points at others. -/
def histories (tick : Tick) (team : TeamId) : PointHistory :=
  if tick = 5 then toldHistory
  else if tick = 6 then toldHistory.mapIdx fun place series => series ++ [earned 6 team place]
  else (services tick).map fun _ => List.replicate (tick.toInt.toNat + 1) 0.0

set_option maxRecDepth 100000 in
/-- The history that is told covers both services up to tick 5. -/
theorem toldHistory_shape : toldHistory.length = 2 ∧ ∀ series ∈ toldHistory, series.length = 6 := by
  decide +kernel

/-- The rounds and the histories of the sample game agree. -/
theorem consistent : backend.Consistent round histories where
  serves := backend_informs
  tells team reply history answered decoded := by
    obtain rfl : reply = historyReply := by simpa [backend, answers] using answered
    refine ⟨5, by decide, ?_⟩
    simp [histories, toldHistory, Reply.document_eq_ok decoded .teams, Except.toOption]
  dated tick _ := (round_spec tick).1
  ranked tick _ rank listed := by
    obtain ⟨_, served, results⟩ := round_spec tick
    rw [served]
    exact results rank listed
  shaped tick _ team := by
    -- The history that is told has two series, as many as there are services at its ticks.
    rw [(round_spec tick).2.1, histories]
    split
    · rename_i first
      rw [first, toldHistory_shape.1]
      rfl
    · split
      · rename_i second
        rw [second, List.length_mapIdx, toldHistory_shape.1]
        rfl
      · exact List.length_map _
  covering tick _ team series member := by
    unfold histories at member
    split at member
    · rename_i first
      rw [first, toldHistory_shape.2 series member]
      rfl
    · split at member
      · rename_i second
        obtain ⟨place, inside, rfl⟩ := List.mem_mapIdx.mp member
        rw [second, List.length_append, toldHistory_shape.2 _ (List.getElem_mem inside)]
        rfl
      · obtain ⟨_, _, rfl⟩ := List.mem_map.mp member
        exact List.length_replicate
  grows tick _ same team rank ranked place series result held given := by
    rw [Round.serviceNames, Round.serviceNames, (round_spec _).2.1, (round_spec _).2.1] at same
    -- Only at tick 6 is anybody ranked while the services are those of the tick before.
    obtain rfl : tick = 6 := by
      rcases tick_cases tick with listed | none
      · revert same
        rcases listed with rfl | rfl | rfl | rfl <;> decide
      · rw [round_of_services_nil none] at ranked
        cases ranked
    -- The history as of tick 5 is the one that is told.
    have before : toldHistory[place]? = some series := held
    simp [histories, List.getElem?_mapIdx, before, earned, ranked, given]

/-- A history is told while its newest tick is played, and the next tick follows. -/
def followedHistory : List (Moment × Choice) :=
  madeAt 0 <| poll 5 ++ lookup 5 ++ [.call (.history 3), .ready 0, .reply 0 historyReply] ++
    poll 6 ++ lookup 6

end Sample

set_option maxRecDepth 100000 in
/-- A history that was told up to tick 5 is carried on to tick 6, and is the one of that tick. -/
theorem carried_history_faithful :
    ∃ past world, Run Sample.backend Sample.start past world ∧
      world.relay.histories.coveredTicks 3 = some 7 ∧
      ∀ team history, (team, history) ∈ world.relay.histories.histories.entries →
        ∃ tick, 0 ≤ tick ∧ history = Sample.histories tick team := by
  -- The run is replayed, and the theorem speaks of the tables it ends with.
  have replayed : (Sample.start.replay Sample.answers [] Sample.followedHistory).map
      (fun reached => reached.2.relay.histories.coveredTicks 3) = some (some 7) := by
    decide +kernel
  obtain ⟨past, world, run, covered⟩ := Run.of_replay replayed
  exact ⟨past, world, run, covered, histories_faithful Sample.consistent run⟩

end Scoreboard
