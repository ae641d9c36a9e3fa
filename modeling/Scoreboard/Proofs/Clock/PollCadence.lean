import Scoreboard.Proofs.Clock.Timing
import Scoreboard.Proofs.Pacing.Jitter
import Scoreboard.Proofs.Relay.Polls

/-! The cadence of polls: never more often than each second, and in time for the end of a tick. -/

namespace Scoreboard

/-- A length of time that may pass between two polls: from one second to ten. -/
def Span.BetweenPolls (span : Span) : Prop :=
  1000000000 ≤ span.nanoseconds ∧ span.nanoseconds ≤ 10000000000

instance (span : Span) : Decidable span.BetweenPolls :=
  inferInstanceAs (Decidable (_ ∧ _))

namespace Turn

/-- How long the end of a poll makes the next one wait, none when the poll breaks off. -/
def pollDelay? (turn : Turn) : PollEnd → Option Span
  | .missed => some failedPollDelay
  | .taken response _ =>
    -- A game that has stopped is polled again soon, but only if there was a delay to replace.
    (nextPollDelay? response.state (unixSecondOf turn.now.unix) turn.jitter).map fun delay =>
      if (stopBetween? (turn.before.live.current, response.state)).isSome then finalPollDelay
      else delay

/-- A turn of a poll brings the poll to its end, or to the turn behind it. -/
structure LeadsPollOn (turn : Turn) : Prop where
  asks : turn.occasion = .call .poll → turn.next = .wait (.polling false)
  hears : ∀ again reply, turn.occasion = .reply (.polling again) reply →
    turn.pollEnd? = some .missed ∨ ∃ response, reply.stateResponse = .ok response ∧
      turn.next = .wait (.entering 1 (.absorbState again response))
  takes : ∀ again response, turn.occasion = .ready (.entering 1 (.absorbState again response)) →
    ∃ holds, turn.pollEnd? = some (.taken response holds)

end Turn

section Delay

variable {jitter : Float} {current : CurrentState} {now : Int64}

/-- Near the end of a tick, the phase of the game allows for a delay of moderate length. -/
theorem GamePhase.betweenPolls_shortWait (number : jitter.isNaN = false) (phase : GamePhase) :
    (phase.shortWait jitter).BetweenPolls := by
  -- Two of the phases have fixed waits, and the jitter adds less than a second to the third.
  have jitterLittle := jitterSpan_le number
  cases phase with
  | running =>
    show 1000000000 ≤ 1000000000 + _ ∧ 1000000000 + _ ≤ 10000000000
    omega
  | suspended =>
    show (Span.ofSeconds 5).BetweenPolls
    decide
  | stopped =>
    show (Span.ofSeconds 10).BetweenPolls
    decide

/-- A delay is of moderate length, whatever numbers the backend tells. -/
theorem betweenPolls_nextPollDelay? (number : jitter.isNaN = false) {delay : Span}
    (waits : nextPollDelay? current now jitter = some delay) : delay.BetweenPolls := by
  -- A document that cannot be timed has no delay to speak of.
  by_cases timed : current.Timed now
  · rw [CurrentState.nextPollDelay?_of_timed timed] at waits
    cases waits
    split
    · exact current.state.betweenPolls_shortWait number
    · -- Two seconds or more are left, and ten are enough.
      rename_i calm
      show 1000000000 ≤ _ * 1000000000 ∧ _ * 1000000000 ≤ 10000000000
      omega
  · rw [CurrentState.nextPollDelay?_eq_none timed] at waits
    cases waits

/-- The delay ends within a tick that is some seconds ahead, unless scoreboards are behind. -/
theorem nextPollDelay?_le_left (jitter : Float)
    (counted : -2 ^ 63 < current.currentTick.toInt)
    (upToDate : current.currentTick.toInt - 1 ≤ current.scoreboardTick.toInt)
    (ahead : 2 ≤ current.currentTickUntil.toInt - now.toInt)
    (fits : current.currentTickUntil.toInt - now.toInt < 2 ^ 63) :
    ∃ delay, nextPollDelay? current now jitter = some delay ∧
      (delay.nanoseconds : Int) ≤ (current.currentTickUntil.toInt - now.toInt) * 1000000000 := by
  have timed : current.Timed now :=
    ⟨⟨by omega, fits⟩, current.fits_before_iff.mpr counted⟩
  have calm : ¬ (current.currentTickUntil.toInt - now.toInt < 2 ∨ current.Behind) := by
    unfold CurrentState.Behind
    omega
  refine ⟨_, CurrentState.nextPollDelay?_of_timed timed jitter, ?_⟩
  rw [if_neg calm]
  -- The delay is what is left, or ten seconds when more is left.
  show (((min (current.currentTickUntil.toInt - now.toInt) 10).toNat * 1000000000 : Nat) : Int) ≤ _
  omega

end Delay

namespace Turn

variable {turn : Turn}

/-- The delay behind a state that is taken in comes of whether the game has stopped. -/
theorem delay_absorbState (relay : Relay) (response : StateResponse) (now : Int) (jitter : Float) :
    (relay.absorbState response now jitter).2 =
      (nextPollDelay? response.state (unixSecondOf now) jitter).map fun delay =>
        if (stopBetween? (relay.live.current, response.state)).isSome then finalPollDelay
        else delay := by
  have stop : (relay.live.transitionTo response.state).finishedAt =
      stopBetween? (relay.live.current, response.state) := rfl
  simp only [Relay.absorbState, Relay.tellTransition, stop]
  -- Whether the scoreboard has moved has no say in it.
  cases nextPollDelay? response.state (unixSecondOf now) jitter <;>
    cases stopBetween? (relay.live.current, response.state) <;>
      cases (relay.live.transitionTo response.state).scoreboardTickChanged <;> rfl

/-- From its request to its end, a poll is never left hanging. -/
theorem leadsPollOn (turn : Turn) : turn.LeadsPollOn where
  asks called := by
    -- Each of the three occasions of a poll leads on to the next one, or to its end.
    rw [next, result, called]
    rfl
  hears again reply occasion := by
    cases answered : reply.stateResponse with
    | error problem => exact .inl (by simp [pollEnd?, occasion, answered])
    | ok response =>
      refine .inr ⟨response, rfl, ?_⟩
      rw [next, result, occasion]
      simp only [Relay.resumeWithReply, answered]
      rfl
  takes again response occasion := by
    simp [pollEnd?, occasion]

/-- What comes behind a poll does not depend on the relay, only on whether there is another. -/
theorem afterPoll_next (relay other : Relay) (again : Bool) (delay : Option Span) (now : Nat) :
    (relay.afterPoll again delay now).2 = (other.afterPoll again delay now).2 := by
  cases delay <;> cases again <;> rfl

/-- A poll that has ended asks for its delay: in its answer, or as a rest before the next poll. -/
theorem next_of_pollEnd? {ended : PollEnd} (ends : turn.pollEnd? = some ended) :
    ∃ again, turn.next =
      (turn.before.afterPoll again (turn.pollDelay? ended) turn.now.elapsed).2 := by
  unfold pollEnd? at ends
  split at ends
  · rename_i again reply occasion
    -- Only a poll that is not answered ends with its reply.
    split at ends
    · cases ends
    · rename_i problem failed
      cases ends
      refine ⟨again, ?_⟩
      rw [next, result, occasion]
      simp only [Relay.resumeWithReply, failed, Relay.continuePoll]
      exact afterPoll_next _ _ _ _ _
  · rename_i parts again response occasion
    split at ends
    · cases ends
    · rename_i last
      cases ends
      refine ⟨again, ?_⟩
      rw [next, result, occasion]
      simp only [Relay.resume, if_neg last, Relay.perform]
      rw [afterPoll_next _ turn.before, delay_absorbState]
      rfl
  · cases ends

/-- The delay behind a poll is of moderate length, however the poll ended. -/
theorem betweenPolls_pollDelay? (number : turn.jitter.isNaN = false) {ended : PollEnd} {delay : Span}
    (waits : turn.pollDelay? ended = some delay) : delay.BetweenPolls := by
  -- A missed poll has a delay of its own, and a poll that took a state has at least one second.
  cases ended with
  | missed =>
    cases waits
    show failedPollDelay.BetweenPolls
    decide
  | taken response holds =>
    obtain ⟨own, waited, rfl⟩ := Option.map_eq_some_iff.mp waits
    split
    · decide
    · exact betweenPolls_nextPollDelay? number waited

/-- A poll has no delay exactly when it brings a document that cannot be timed. -/
theorem pollDelay?_eq_none_iff (ended : PollEnd) : turn.pollDelay? ended = none ↔
    ∃ response holds, ended = .taken response holds ∧
      ¬ response.state.Timed (unixSecondOf turn.now.unix) := by
  -- The delay of a missed poll is fixed, so only a document can be the reason.
  cases ended with
  | missed => simp [pollDelay?]
  | taken response holds =>
    simp only [pollDelay?, Option.map_eq_none_iff, CurrentState.nextPollDelay?_eq_none_iff]
    exact ⟨fun untimed => ⟨response, holds, rfl, untimed⟩, fun ⟨_, _, same, untimed⟩ => by
      cases same
      exact untimed⟩

end Turn

/--
A poll that does not break off ends with a delay from one second to ten, within the tick.

In whatever state the relay is, and whatever the backend answers, a poll goes on to its end. It breaks
off there if it brings a document that cannot be timed, and ends with a delay of that length otherwise,
however it ended. The delay does not go beyond the end of the tick if that is two seconds ahead at
least, unless the scoreboard is behind, or the tick is the least of all. There is none if so much is
left that no word holds it.
-/
theorem polls_paced (turn : Turn) (number : turn.jitter.isNaN = false) :
    turn.LeadsPollOn ∧
      (∀ ended, turn.pollEnd? = some ended →
        (∃ again, turn.next =
          (turn.before.afterPoll again (turn.pollDelay? ended) turn.now.elapsed).2) ∧
        (∀ delay, turn.pollDelay? ended = some delay → delay.BetweenPolls) ∧
        (turn.pollDelay? ended = none ↔ ∃ response holds, ended = .taken response holds ∧
          ¬ response.state.Timed (unixSecondOf turn.now.unix))) ∧
      ∀ (current : CurrentState) (now : Int64), -2 ^ 63 < current.currentTick.toInt →
        current.currentTick.toInt - 1 ≤ current.scoreboardTick.toInt →
        2 ≤ current.currentTickUntil.toInt - now.toInt →
          (current.currentTickUntil.toInt - now.toInt < 2 ^ 63 →
            ∃ delay, nextPollDelay? current now turn.jitter = some delay ∧
              (delay.nanoseconds : Int) ≤
                (current.currentTickUntil.toInt - now.toInt) * 1000000000) ∧
          (2 ^ 63 ≤ current.currentTickUntil.toInt - now.toInt →
            nextPollDelay? current now turn.jitter = none) := by
  refine ⟨turn.leadsPollOn, fun ended ends => ⟨Turn.next_of_pollEnd? ends,
    fun _ waits => Turn.betweenPolls_pollDelay? number waits, turn.pollDelay?_eq_none_iff ended⟩,
    fun current now counted upToDate ahead =>
      ⟨nextPollDelay?_le_left _ counted upToDate ahead, fun beyond => ?_⟩⟩
  -- What is left is beyond the greatest word.
  exact CurrentState.nextPollDelay?_eq_none (fun timed => by have := timed.left.2; omega) _

/-- A state whose tick ends three seconds after the second 1700000000. -/
def CurrentState.soonOver : CurrentState :=
  ⟨5, .running, 1700000003, 4, none⟩

/-- The turn at that second in which an answer to a poll is taken in. -/
def Turn.takingIn (current : CurrentState) : Turn where
  now := ⟨0, 1700000000000⟩
  jitter := 0.25
  occasion := .ready (.entering 1 (.absorbState false ⟨current, none⟩))
  before := .initial 1000 .standard

/-- A game whose tick ends in three seconds is polled again within these, and not at once. -/
theorem poll_waits_for_end_of_tick :
    (Turn.takingIn .soonOver).jitter.isNaN = false ∧
      (Turn.takingIn .soonOver).next = .done (.delay (.ofSeconds 3)) ∧
      (Span.ofSeconds 3).BetweenPolls ∧
      ∃ delay, nextPollDelay? .soonOver 1700000000 0.25 = some delay ∧
        (delay.nanoseconds : Int) ≤ 3 * 1000000000 := by
  -- The turn takes the document of a game that runs, three seconds before the end of its tick.
  have number : (Turn.takingIn .soonOver).jitter.isNaN = false := by decide +kernel
  obtain ⟨leads, paced, timely⟩ := polls_paced (Turn.takingIn .soonOver) number
  obtain ⟨holds, taken⟩ := leads.takes _ _ rfl
  exact ⟨number, rfl, (paced _ taken).2.1 _ rfl,
    (timely .soonOver 1700000000 (by decide) (by decide) (by decide)).1 (by decide)⟩

/-- A poll that brings a tick over since before all time breaks off without any delay. -/
theorem poll_of_long_over_tick_has_no_delay :
    Codec.currentState.Restores LiveState.longOverState ∧
      (Turn.takingIn LiveState.longOverState).jitter.isNaN = false ∧
      (∃ holds, (Turn.takingIn LiveState.longOverState).pollEnd? =
        some (.taken ⟨LiveState.longOverState, none⟩ holds)) ∧
      (Turn.takingIn LiveState.longOverState).next = .done .brokenOff :=
  ⟨LiveState.longOverState.returns.ofText (by decide), by decide +kernel, ⟨false, rfl⟩, rfl⟩

end Scoreboard
