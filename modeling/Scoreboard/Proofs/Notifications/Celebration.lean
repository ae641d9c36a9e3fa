import Scoreboard.Proofs.Notifications.Ahead
import Scoreboard.Proofs.Relay.Documents
import Scoreboard.Proofs.Relay.Strand

/-! The celebration of the end of a game: what its task does from its first turn to its last. -/

namespace Scoreboard

/-- A turn of which the dashboards see nothing. -/
structure Turn.Unseen (turn : Turn) : Prop where
  overlay : turn.after.overlay = turn.before.overlay
  hub : turn.after.hub = turn.before.hub

/-- A celebration is after the round of a tick. -/
def Stage.LooksFor (tick : Tick) : Stage → Prop
  | .fetchingRound .gameOver other _ | .pausingRound .gameOver other _ _
  | .entering 1 (.settleRound .gameOver other _) => other = tick
  | _ => False

/-- Some turn has found the tick of the end published, and asked for its round. -/
def Asked (tick : Tick) (own : List Turn) : Prop :=
  0 ≤ tick ∧ ∃ turn ∈ own, tick ≤ turn.before.newestTick

/-- The turns of a celebration so far, and where they have led. -/
inductive Celebration (tick : Tick) : List Turn → Next → Prop
  | waits {own : List Turn} {stage : Stage} (unseen : ∀ turn ∈ own, turn.Unseen)
      (waits : stage = .starting (.gameOver tick) ∨ stage = .awaitingTick tick) :
    Celebration tick own (.wait stage)
  | looks {own : List Turn} {stage : Stage} (unseen : ∀ turn ∈ own, turn.Unseen)
      (asked : Asked tick own) (looks : stage.LooksFor tick) : Celebration tick own (.wait stage)
  | fails {own : List Turn} {problem : ServiceError} (unseen : ∀ turn ∈ own, turn.Unseen) :
    Celebration tick own (.done (.podium (.error problem)))
  /-- The round of the tick is there, and somebody has looked whether it is to be processed. -/
  | finds {own : List Turn} {snapshot : Snapshot} (unseen : ∀ turn ∈ own, turn.Unseen)
      (asked : Asked tick own) (found : ∃ turn ∈ own, turn.check? = some (tick, snapshot)) :
    Celebration tick own (.wait (.entering 1 (.nameWinners tick snapshot.round)))
  | tells {own : List Turn} {turn : Turn} {round : Round}
      (finds : Celebration tick own (.wait (.entering 1 (.nameWinners tick round))))
      (named : turn.named? = some (tick, podium round turn.before.teams)) :
    Celebration tick (own ++ [turn])
      (.wait (.entering 1 (.keepPodium (podium round turn.before.teams))))
  | keeps {own : List Turn} {turn : Turn} {winners : List PodiumEntry}
      (tells : Celebration tick own (.wait (.entering 1 (.keepPodium winners))))
      (kept : turn.kept? = some winners) :
    Celebration tick (own ++ [turn]) (.wait (.entering 1 (.weighPyro winners)))
  /-- Without notifications, the podium is all there is. -/
  | mutes {own : List Turn} {turn : Turn} {winners : List PodiumEntry}
      (keeps : Celebration tick own (.wait (.entering 1 (.weighPyro winners))))
      (after : turn.after = turn.before)
      (off : turn.before.preferences.showNotifications = false) :
    Celebration tick (own ++ [turn]) (.done (.podium (.ok winners)))
  | weighs {own : List Turn} {turn : Turn} {winners : List PodiumEntry}
      (keeps : Celebration tick own (.wait (.entering 1 (.weighPyro winners))))
      (after : turn.after = turn.before)
      (on : turn.before.preferences.showNotifications = true) :
    Celebration tick (own ++ [turn]) (.wait (.entering 1 (.playPyro winners)))
  | plays {own : List Turn} {turn : Turn} {winners : List PodiumEntry}
      (weighs : Celebration tick own (.wait (.entering 1 (.playPyro winners))))
      (after : turn.after = turn.before.playPyro) :
    Celebration tick (own ++ [turn]) (.done (.podium (.ok winners)))

section Steps

variable {backend : Backend} {tick : Tick} {own : List Turn} {turn : Turn}

/-- A podium that was asked for stays so. -/
theorem Asked.more (asked : Asked tick own) (turn : Turn) : Asked tick (own ++ [turn]) := by
  obtain ⟨counted, other, member, reached⟩ := asked
  exact ⟨counted, other, List.mem_append_left _ member, reached⟩

/-- A turn that changes nothing is unseen. -/
theorem Turn.Unseen.of_same (same : turn.after = turn.before) : turn.Unseen :=
  ⟨by rw [same], by rw [same]⟩

/-- One more unseen turn behind unseen ones leaves all of them unseen. -/
theorem unseen_concat (unseen : ∀ turn ∈ own, turn.Unseen) (last : turn.Unseen) :
    ∀ other ∈ own ++ [turn], other.Unseen :=
  List.forall_mem_append.mpr ⟨unseen, List.forall_mem_singleton.mpr last⟩

/-- The turn behind the wait for the tick asks for its round, or finds that it is below zero. -/
theorem Celebration.ask (unseen : ∀ turn ∈ own, turn.Unseen) (due : turn.IsDue backend)
    (occasion : turn.occasion = .ready (.awaitingTick tick)) :
    Celebration tick (own ++ [turn]) turn.next := by
  have result : turn.result = turn.before.askRanking .gameOver tick := by
    simp only [Turn.result, occasion, Relay.resume]
  have reached : tick ≤ turn.before.newestTick := by
    simpa [Turn.IsDue, occasion, Relay.meets, Stage.wait] using due
  have unseen := unseen_concat unseen (.of_same
    ((congrArg Prod.fst result).trans (Relay.askRanking_relay _ _ _)))
  have next : turn.next = (turn.before.askRanking .gameOver tick).2 := congrArg Prod.snd result
  have asked_from : 0 ≤ tick → Asked tick (own ++ [turn]) :=
    fun counted => ⟨counted, turn, by simp, reached⟩
  -- A tick below zero is turned down, and the others are in the cache or have to be fetched.
  rcases turn.before.askRanking_cases .gameOver tick with
    ⟨_, asked⟩ | ⟨counted, snapshot, _, asked⟩ | ⟨counted, _, asked⟩
  · rw [next, asked]
    exact .fails unseen
  · rw [next, asked]
    exact .looks unseen (asked_from counted) rfl
  · rw [next, asked]
    exact .looks unseen (asked_from counted) rfl

/-- The turn of a celebration that gets a reply looks on, or fails for good. -/
theorem Celebration.answer (unseen : ∀ turn ∈ own, turn.Unseen) (asked : Asked tick own)
    {retry : Nat} {reply : Reply}
    (occasion : turn.occasion = .reply (.fetchingRound .gameOver tick retry) reply) :
    Celebration tick (own ++ [turn]) turn.next := by
  -- A reply brings a round, or has the next attempt wait, or is the last failure.
  have result : turn.result = turn.before.continueRanking .gameOver tick retry turn.now.elapsed
      (reply.document (.round tick) .round) := by
    simp only [Turn.result, occasion, Relay.resumeWithReply]
  rcases turn.before.continueRanking_cases .gameOver tick retry turn.now.elapsed
    (reply.document (.round tick) .round) with
    ⟨round, _, continued⟩ | ⟨again, deadline, continued⟩ | ⟨problem, continued⟩
  · -- The round joins the cache, which no dashboard sees.
    have stored : turn.after = (turn.before.storeRound tick round).1 :=
      congrArg Prod.fst (result.trans continued)
    have next : turn.next = .wait (.entering 1 (.settleRound .gameOver tick _)) :=
      congrArg Prod.snd (result.trans continued)
    have last : turn.Unseen := ⟨by rw [stored]; rfl, by rw [stored]; rfl⟩
    rw [next]
    exact .looks (unseen_concat unseen last) (asked.more turn) rfl
  · have same : turn.after = turn.before := congrArg Prod.fst (result.trans continued)
    have next : turn.next = .wait (.pausingRound .gameOver tick again deadline) :=
      congrArg Prod.snd (result.trans continued)
    rw [next]
    exact .looks (unseen_concat unseen (.of_same same)) (asked.more turn) rfl
  · have same : turn.after = turn.before := congrArg Prod.fst (result.trans continued)
    have next : turn.next = .done (.podium (.error problem)) :=
      congrArg Prod.snd (result.trans continued)
    rw [next]
    exact .fails (unseen_concat unseen (.of_same same))

/-- The turn of a celebration that settles the round of its tick has found it. -/
theorem Celebration.find (unseen : ∀ turn ∈ own, turn.Unseen) (asked : Asked tick own)
    {snapshot : Snapshot}
    (occasion : turn.occasion = .ready (.entering 1 (.settleRound .gameOver tick snapshot))) :
    Celebration tick (own ++ [turn]) turn.next := by
  have result : turn.result = (turn.before.settleRound tick snapshot.round).finishRanking .gameOver
      tick (.ok snapshot) := by
    simp [Turn.result, occasion, Relay.resume, Relay.perform]
  -- Documents and live events are all that the look may change, and no dashboard sees them.
  obtain ⟨rounds, histories, events, settled⟩ := turn.before.settleRound_eq tick snapshot.round
  have after : turn.after = turn.before.settleRound tick snapshot.round :=
    (congrArg Prod.fst result).trans (Relay.finishRanking_relay _ _ _ _)
  have next : turn.next = .wait (.entering 1 (.nameWinners tick snapshot.round)) :=
    congrArg Prod.snd result
  have last : turn.Unseen := ⟨by rw [after, settled], by rw [after, settled]⟩
  have found : turn.check? = some (tick, snapshot) := by
    simp [Turn.check?, occasion, Stage.check?]
  rw [next]
  exact .finds (unseen_concat unseen last) (asked.more turn) ⟨turn, by simp, found⟩

/-- The first turn of a celebration does nothing but wait for the tick. -/
theorem Celebration.start (unseen : ∀ turn ∈ own, turn.Unseen)
    (occasion : turn.occasion = .ready (.starting (.gameOver tick))) :
    Celebration tick (own ++ [turn]) turn.next := by
  -- Nothing is shared that the turn touches.
  have result : turn.result = (turn.before, .wait (.awaitingTick tick)) := by
    simp only [Turn.result, occasion, Relay.resume, Relay.begin]
  have next : turn.next = .wait (.awaitingTick tick) := congrArg Prod.snd result
  rw [next]
  exact .waits (unseen_concat unseen (.of_same (congrArg Prod.fst result))) (.inr rfl)

/-- Behind a pause comes the next attempt. -/
theorem Celebration.retry (unseen : ∀ turn ∈ own, turn.Unseen) (asked : Asked tick own)
    {retry deadline : Nat}
    (occasion : turn.occasion = .ready (.pausingRound .gameOver tick retry deadline)) :
    Celebration tick (own ++ [turn]) turn.next := by
  -- The pause brings no news, so that all stays as it was.
  have result : turn.result = (turn.before, .wait (.fetchingRound .gameOver tick retry)) := by
    simp only [Turn.result, occasion, Relay.resume]
  have next : turn.next = .wait (.fetchingRound .gameOver tick retry) := congrArg Prod.snd result
  rw [next]
  exact .looks (unseen_concat unseen (.of_same (congrArg Prod.fst result))) (asked.more turn) rfl

/-- The turn that weighs the animation has the preferences decide whether there is one. -/
theorem Celebration.weigh {winners : List PodiumEntry}
    (keeps : Celebration tick own (.wait (.entering 1 (.weighPyro winners))))
    (result : turn.result = turn.before.weighPyro winners) :
    Celebration tick (own ++ [turn]) turn.next := by
  -- With notifications the animation comes next, and without them the task is over.
  unfold Relay.weighPyro at result
  split at result
  · rename_i on
    have next : turn.next = .wait (.entering 1 (.playPyro winners)) := congrArg Prod.snd result
    rw [next]
    exact .weighs keeps (congrArg Prod.fst result) on
  · rename_i off
    have next : turn.next = .done (.podium (.ok winners)) := congrArg Prod.snd result
    rw [next]
    exact .mutes keeps (congrArg Prod.fst result) (by simpa using off)

/-- One more turn of its task carries a celebration on. -/
theorem Celebration.step {stage : Stage} (celebration : Celebration tick own (.wait stage))
    (due : turn.IsDue backend) (takes : turn.occasion.stages = [stage]) :
    Celebration tick (own ++ [turn]) turn.next := by
  -- One case per stage at which a celebration waits.
  cases celebration with
  | waits unseen waits =>
    rcases waits with rfl | rfl
    · exact Celebration.start unseen (Turn.ready_of_takes due takes (by simp [Stage.wait]))
    · exact Celebration.ask unseen due (Turn.ready_of_takes due takes (by simp [Stage.wait]))
  | looks unseen asked looks =>
    unfold Stage.LooksFor at looks
    split at looks
    · subst looks
      obtain ⟨reply, occasion⟩ := Turn.reply_of_takes due takes rfl
      exact Celebration.answer unseen asked occasion
    · subst looks
      exact Celebration.retry unseen asked (Turn.ready_of_takes due takes (by simp [Stage.wait]))
    · subst looks
      exact Celebration.find unseen asked (Turn.ready_of_takes due takes (by simp [Stage.wait]))
    · exact looks.elim
  | @finds _ snapshot unseen asked found =>
    -- The podium is named from the round that was found and the directory as it is now.
    have result := Turn.performs due takes
    have next : turn.next =
        .wait (.entering 1 (.keepPodium (podium snapshot.round turn.before.teams))) :=
      congrArg Prod.snd result
    have occasion := Turn.ready_of_takes due takes (by simp [Stage.wait])
    rw [next]
    exact .tells (.finds unseen asked found) (by simp [Turn.named?, occasion])
  | tells finds named =>
    have result := Turn.performs due takes
    have next : turn.next = .wait (.entering 1 (.weighPyro _)) := congrArg Prod.snd result
    have occasion := Turn.ready_of_takes due takes (by simp [Stage.wait])
    rw [next]
    exact .keeps (.tells finds named) (by simp [Turn.kept?, occasion])
  | keeps tells kept => exact Celebration.weigh (.keeps tells kept) (Turn.performs due takes)
  | @weighs _ _ winners keeps after on =>
    have result := Turn.performs due takes
    have next : turn.next = .done (.podium (.ok winners)) := congrArg Prod.snd result
    rw [next]
    exact .plays (.weighs keeps after on) (congrArg Prod.fst result)

/-- A task that was started to celebrate the end of a game at a tick does nothing else. -/
theorem Strand.celebration {next : Next} (due : ∀ turn ∈ own, turn.IsDue backend)
    (strand : Strand (.wait (.starting (.gameOver tick))) own next) :
    Celebration tick own next := by
  -- The task begins unseen, and each of its turns carries the celebration on.
  induction strand with
  | begin => exact .waits (fun _ none => nomatch none) (.inl rfl)
  | @step own stage turn strand takes ih =>
    have before := ih fun other member => due other (List.mem_append_left _ member)
    exact before.step (due turn (by simp)) takes

end Steps

end Scoreboard
