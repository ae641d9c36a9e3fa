import Scoreboard.Pacing.PollDelay
import Scoreboard.Proofs.Words

/-! The delay between two polls: its rule over the integers, and the numbers that leave none. -/

namespace Scoreboard

namespace CurrentState

variable {current : CurrentState} {now : Int64} {jitter : Float}

/-- The newest scoreboard is older than that of the tick before. -/
def Behind (current : CurrentState) : Prop :=
  current.scoreboardTick.toInt < current.currentTick.toInt - 1

instance (current : CurrentState) : Decidable current.Behind :=
  inferInstanceAs (Decidable (_ < _))

/-- A document can be timed at a Unix second: what is left of its tick fits, and the tick before. -/
structure Timed (current : CurrentState) (now : Int64) : Prop where
  left : Fits (current.currentTickUntil.toInt - now.toInt)
  before : Fits (current.currentTick.toInt - 1)

instance (current : CurrentState) (now : Int64) : Decidable (current.Timed now) :=
  decidable_of_iff (Fits (current.currentTickUntil.toInt - now.toInt) ∧
    Fits (current.currentTick.toInt - 1)) ⟨fun fits => ⟨fits.1, fits.2⟩, fun timed => ⟨timed.1, timed.2⟩⟩

/-- The only tick without a tick before it is the least of all. -/
theorem fits_before_iff (current : CurrentState) :
    Fits (current.currentTick.toInt - 1) ↔ -2 ^ 63 < current.currentTick.toInt := by
  -- No tick is too great for the one before it.
  obtain ⟨least, greatest⟩ := fits_toInt current.currentTick
  unfold Fits
  omega

/-- Over the integers, a delay is short near the end of the tick, and else what is left of it. -/
theorem nextPollDelay?_of_timed (timed : current.Timed now) (jitter : Float) :
    nextPollDelay? current now jitter =
      some (if current.currentTickUntil.toInt - now.toInt < 2 ∨ current.Behind then
        current.state.shortWait jitter
      else .ofSeconds (min (current.currentTickUntil.toInt - now.toInt) 10).toNat) := by
  have one : (1 : Int64).toInt = 1 := rfl
  have two : (2 : Int64).toInt = 2 := rfl
  have ten : (10 : Int64).toInt = 10 := rfl
  unfold nextPollDelay? difference?
  rw [one, wordOf?_of_fits timed.left, wordOf?_of_fits timed.before]
  simp only [Option.bind_eq_bind, Option.bind_some]
  -- Words are compared as what they stand for, and both differences stand for the exact ones.
  have near : (Int64.ofInt (current.currentTickUntil.toInt - now.toInt) < 2 ∨
      current.scoreboardTick < Int64.ofInt (current.currentTick.toInt - 1)) ↔
        (current.currentTickUntil.toInt - now.toInt < 2 ∨ current.Behind) := by
    rw [Int64.lt_iff_toInt_lt, Int64.lt_iff_toInt_lt, toInt_ofInt_of_fits timed.left,
      toInt_ofInt_of_fits timed.before, two]
    exact Iff.rfl
  rw [toInt_min, toInt_ofInt_of_fits timed.left, ten]
  by_cases short : current.currentTickUntil.toInt - now.toInt < 2 ∨ current.Behind
  · rw [if_pos (near.mpr short), if_pos short]
  · rw [if_neg (mt near.mp short), if_neg short]

/-- There is no delay when one of the two differences has no word. -/
theorem nextPollDelay?_eq_none (untimed : ¬ current.Timed now) (jitter : Float) :
    nextPollDelay? current now jitter = none := by
  -- The subtractions come one behind the other, so the first without a word ends it.
  have one : (1 : Int64).toInt = 1 := rfl
  unfold nextPollDelay? difference?
  rw [one]
  by_cases left : Fits (current.currentTickUntil.toInt - now.toInt)
  · -- The time left has a word, so the tick before has none.
    have before : ¬ Fits (current.currentTick.toInt - 1) := fun before => untimed ⟨left, before⟩
    rw [wordOf?_of_fits left, wordOf?_of_not_fits before]
    rfl
  · rw [wordOf?_of_not_fits left]
    rfl

/-- There is a delay exactly when the document can be timed. -/
theorem isSome_nextPollDelay?_iff :
    (nextPollDelay? current now jitter).isSome = true ↔ current.Timed now := by
  -- The delay is known on both sides.
  by_cases timed : current.Timed now
  · rw [nextPollDelay?_of_timed timed]
    exact iff_of_true rfl timed
  · rw [nextPollDelay?_eq_none timed]
    exact iff_of_false Bool.false_ne_true timed

/-- A poll breaks off exactly when the document cannot be timed. -/
theorem nextPollDelay?_eq_none_iff : nextPollDelay? current now jitter = none ↔ ¬ current.Timed now := by
  have there : (nextPollDelay? current now jitter).isSome = true ↔ current.Timed now :=
    isSome_nextPollDelay?_iff
  rw [← there, Bool.not_eq_true, Option.isSome_eq_false_iff, Option.isNone_iff_eq_none]

end CurrentState

end Scoreboard
