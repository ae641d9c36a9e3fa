import Scoreboard.Proofs.Clock.Countdown
import Scoreboard.Proofs.Document.Plain
import Scoreboard.Proofs.Pacing.Delay

/-! Timing on the numbers of the backend: exact where they stay in range, and broken off elsewhere. -/

namespace Scoreboard

/-- The tick ends at a second that is not next to either end of the range. -/
def CurrentState.EndsInReach (current : CurrentState) : Prop :=
  -2 ^ 63 + 2 ^ 41 ≤ current.currentTickUntil.toInt ∧
    current.currentTickUntil.toInt < 2 ^ 63 - 2 ^ 41

section Calendar

variable {arrivals : List Arrival} {now : Int} {current : CurrentState} {live : LiveState}

/-- The clock is never off by more than the calendar is long. -/
theorem LiveState.clockDelta_within (readings : ∀ arrival ∈ arrivals, OnCalendar arrival.now)
    (reached : initial.after arrivals = live) :
    -631107417600 < live.clockDelta.toInt ∧ live.clockDelta.toInt < 631107417600 := by
  subst reached
  -- From the last response backwards, since only the last one that told a second counts.
  induction arrivals using List.reverseRecOn with
  | nil => exact ⟨by decide, by decide⟩
  | append_singleton earlier arrival ih =>
    have own := readings arrival (by simp)
    have others : ∀ other ∈ earlier, OnCalendar other.now := fun other member =>
      readings other (List.mem_append_left _ member)
    rw [after_concat]
    by_cases told : ∃ second, arrival.response.Tells (initial.after earlier).lastDate second
    · obtain ⟨second, tells⟩ := told
      obtain ⟨_, _, _, date⟩ := id tells
      obtain ⟨begun, ended⟩ := httpDateSecond_within date
      rw [clockDelta_apply_of_tells tells, toInt_offset own begun ended]
      have small := own.small
      rw [yearStart_first] at begun
      rw [yearStart_last] at ended
      omega
    · rw [clockDelta_apply_of_quiet (not_exists.mp told)]
      exact ih others

/-- The second of a reading on the calendar is a word. -/
theorem OnCalendar.fits (reading : OnCalendar now) : Fits (now / 1000) := by
  have small := reading.small
  exact ⟨by omega, by omega⟩

/-- What is left of a tick that ends in reach fits by the local clock. -/
theorem CurrentState.EndsInReach.fits (ends : current.EndsInReach) (reading : OnCalendar now) :
    Fits (current.left now) := by
  -- A reading on the calendar is far from either end of a word, so the difference is too.
  obtain ⟨least, greatest⟩ := ends
  have small := reading.small
  rw [left]
  exact ⟨by omega, by omega⟩

/-- What is left of a tick that ends in reach fits by the server's clock too. -/
theorem LiveState.fits_left (ends : live.current.EndsInReach)
    (readings : ∀ arrival ∈ arrivals, OnCalendar arrival.now)
    (reached : initial.after arrivals = live) (reading : OnCalendar now) :
    Fits (live.left now) := by
  -- The offset is a difference of two readings, so the same bounds hold with it.
  obtain ⟨least, greatest⟩ := ends
  have small := reading.small
  have offset := clockDelta_within readings reached
  rw [left, CurrentState.left]
  exact ⟨by omega, by omega⟩

end Calendar

section Delay

variable {current : CurrentState} {now : Int}

/-- A document is timed at a reading by what is left of its tick, and by the tick before. -/
theorem CurrentState.timed_iff (current : CurrentState) (reading : OnCalendar now) :
    current.Timed (unixSecondOf now) ↔
      Fits (current.left now) ∧ -2 ^ 63 < current.currentTick.toInt := by
  -- The seconds of a reading on the calendar are exact, so both sides name the same integers.
  have left : current.currentTickUntil.toInt - (unixSecondOf now).toInt = current.left now := by
    rw [toInt_unixSecondOf reading.fits, CurrentState.left]
  constructor
  · rintro ⟨fits, before⟩
    exact ⟨left ▸ fits, current.fits_before_iff.mp before⟩
  · rintro ⟨fits, counted⟩
    exact ⟨left.symm ▸ fits, current.fits_before_iff.mpr counted⟩

/-- The delay follows its rule over the integers where the document is timed, and is none elsewhere. -/
theorem nextPollDelay?_eq (current : CurrentState) (reading : OnCalendar now) (jitter : Float) :
    nextPollDelay? current (unixSecondOf now) jitter =
      if Fits (current.left now) ∧ -2 ^ 63 < current.currentTick.toInt then
        some (if current.left now < 2 ∨ current.Behind then current.state.shortWait jitter
          else .ofSeconds (min (current.left now) 10).toNat)
      else none := by
  -- Whether the document is timed is what the condition says, and either case has its lemma.
  have left : current.currentTickUntil.toInt - (unixSecondOf now).toInt = current.left now := by
    rw [toInt_unixSecondOf reading.fits, CurrentState.left]
  by_cases timed : current.Timed (unixSecondOf now)
  · rw [CurrentState.nextPollDelay?_of_timed timed, if_pos ((current.timed_iff reading).mp timed), left]
  · rw [CurrentState.nextPollDelay?_eq_none timed, if_neg (mt (current.timed_iff reading).mpr timed)]

end Delay

namespace LiveState

/--
The countdown and the delay between polls are exact where their numbers fit into words.

Whatever numbers a document holds, and however the clock has been set, the countdown is that of the
integers if what is left of the tick fits by the local clock and by the server's. Otherwise there is
none. The delay follows its rule if what is left by the local clock fits and the tick is not the
least of all. Otherwise there is none either. All of it fits if the tick ends some seventy thousand
years away from either end of the range.
-/
theorem timing_exact_unless_out_of_range (live : LiveState) (arrivals : List Arrival) (now : Int)
    (readings : ∀ arrival ∈ arrivals, OnCalendar arrival.now)
    (reached : initial.after arrivals = live) (reading : OnCalendar now) :
    ((live.remainingSeconds? now).map Int64.toInt = some (max 0 (live.left now)) ↔
        Fits (live.current.left now) ∧ Fits (live.left now)) ∧
      (live.remainingSeconds? now = none ↔
        ¬ (Fits (live.current.left now) ∧ Fits (live.left now))) ∧
      (live.current.EndsInReach → Fits (live.current.left now) ∧ Fits (live.left now)) ∧
      ∀ (current : CurrentState) (jitter : Float),
        nextPollDelay? current (unixSecondOf now) jitter =
          (if Fits (current.left now) ∧ -2 ^ 63 < current.currentTick.toInt then
            some (if current.left now < 2 ∨ current.Behind then current.state.shortWait jitter
              else .ofSeconds (min (current.left now) 10).toNat)
          else none) ∧
        (current.EndsInReach → Fits (current.left now)) := by
  have missing : live.remainingSeconds? now = none ↔
      ¬ (Fits (live.current.left now) ∧ Fits (live.left now)) :=
    remainingSeconds?_eq_none_iff reading.fits
  -- The countdown and the delay each have a value exactly where their differences fit.
  refine ⟨⟨fun shown => ?_, fun ⟨here, there⟩ => ?_⟩, missing,
    fun ends => ⟨ends.fits reading, fits_left ends readings reached reading⟩,
    fun current jitter => ⟨nextPollDelay?_eq current reading jitter, fun ends => ends.fits reading⟩⟩
  · -- A countdown that is shown is there.
    by_contra out
    rw [missing.mpr out] at shown
    cases shown
  · exact remainingSeconds?_of_fits reading.fits here there

/-- A document of a suspended game whose tick ended at the first second of all. -/
def longOverState : CurrentState :=
  ⟨5, .suspended, Int64.minValue, 4, none⟩

/-- A running tick is timed exactly on a fast clock, and one that ended too long ago is not timed. -/
theorem tick_timed_on_fast_clock :
    (∀ arrival ∈ [Arrival.mk sundayResponse 784111780999], OnCalendar arrival.now) ∧
      OnCalendar 784111880000 ∧
      ((initial.after [⟨sundayResponse, 784111780999⟩]).remainingSeconds? 784111880000).map
        Int64.toInt = some 20 ∧
      ∀ jitter,
        nextPollDelay? sundayResponse.state (unixSecondOf 784111880000) jitter =
          some (.ofSeconds 10) ∧
        nextPollDelay? longOverState (unixSecondOf 784111880000) jitter = none := by
  have readings : ∀ arrival ∈ [Arrival.mk sundayResponse 784111780999],
      OnCalendar arrival.now := by
    decide
  have reading : OnCalendar 784111880000 := by
    decide
  have ends : sundayResponse.state.EndsInReach := ⟨by decide, by decide⟩
  -- The clock is three seconds ahead, so it has seventeen of the twenty seconds left itself.
  have left : (initial.after [⟨sundayResponse, 784111780999⟩]).left 784111880000 = 20 := by
    decide
  have timing := timing_exact_unless_out_of_range _ _ _ readings rfl reading
  obtain ⟨countdown, _, fits, delay⟩ := timing
  refine ⟨readings, reading, ?_, fun jitter => ⟨?_, ?_⟩⟩
  · rw [countdown.mpr (fits ends), left]
    decide
  · obtain ⟨rule, fits⟩ := delay sundayResponse.state jitter
    rw [rule, if_pos ⟨fits ends, by decide⟩, if_neg (by decide)]
    rfl
  · rw [(delay longOverState jitter).1, if_neg (by decide)]

/-- A tick that ended long ago has neither a countdown nor a delay, though both would be short. -/
theorem long_over_tick_breaks_off :
    Codec.currentState.Restores longOverState ∧
      OnCalendar 1700000000000 ∧
      ((initial.apply ⟨longOverState, none⟩ 1700000000000).remainingSeconds?
        1700000000000).map Int64.toInt ≠
          some (max 0 ((initial.apply ⟨longOverState, none⟩ 1700000000000).left 1700000000000)) ∧
      ∀ jitter, nextPollDelay? longOverState (unixSecondOf 1700000000000) jitter ≠
        some (if longOverState.left 1700000000000 < 2 ∨ longOverState.Behind then
          longOverState.state.shortWait jitter
        else .ofSeconds (min (longOverState.left 1700000000000) 10).toNat) := by
  -- What is left lies below the least word, so that neither is computed.
  have reading : OnCalendar 1700000000000 := by
    decide
  refine ⟨longOverState.returns.ofText (by decide), reading, ?_, fun jitter => ?_⟩
  · rw [(remainingSeconds?_eq_none_iff reading.fits).mpr (by decide)]
    exact nofun
  · rw [nextPollDelay?_eq longOverState reading jitter, if_neg (by decide)]
    exact nofun

end LiveState

end Scoreboard
