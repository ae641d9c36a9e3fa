import Scoreboard.Proofs.Text.Digits
import Scoreboard.Text.Countdown

/-! Countdowns: every number of seconds is shown in one way, which no other number is shown in. -/

namespace Scoreboard

/--
A countdown as it is shown, with minutes and seconds in digits.

The seconds are two digits and less than a minute. The minutes are two digits or more, and zeros
stand in front of them only to make them two.
-/
@[ext] structure Countdown where
  minutes : List Char
  seconds : List Char
  minutesRow : ∀ c ∈ minutes, c.isDigit = true
  secondsRow : ∀ c ∈ seconds, c.isDigit = true
  minutesWide : 2 ≤ minutes.length
  minutesLead : 2 < minutes.length → minutes.head? ≠ some '0'
  secondsWide : seconds.length = 2
  secondsBelow : digitsValue seconds < 60

namespace Countdown

variable {shown other : Countdown}

/-- The text of a countdown. -/
def text (shown : Countdown) : List Char :=
  shown.minutes ++ ':' :: shown.seconds

/-- The seconds that a countdown tells to be left. -/
def left (shown : Countdown) : Nat :=
  60 * digitsValue shown.minutes + digitsValue shown.seconds

/-- The countdown of a number of seconds. -/
def ofSeconds (left : Nat) : Countdown :=
  have short : left % 60 < 10 ^ 2 := Nat.lt_trans (Nat.mod_lt left (by decide)) (by decide)
  { minutes := padZeros 2 (natDigits (left / 60))
    seconds := padZeros 2 (natDigits (left % 60))
    minutesRow := fun _ member => isDigit_of_mem_padZeros member
    secondsRow := fun _ member => isDigit_of_mem_padZeros member
    minutesWide := le_length_padZeros 2 _
    minutesLead := fun wide => head?_padZeros_natDigits wide (by decide)
    secondsWide := length_padZeros (by decide) short
    secondsBelow := by
      rw [digitsValue_padZeros, digitsValue_natDigits]
      exact Nat.mod_lt left (by decide) }

/-- The minutes of a countdown are the whole ones that are left. -/
@[simp] theorem minutes_ofSeconds (left : Nat) :
    (ofSeconds left).minutes = padZeros 2 (natDigits (left / 60)) :=
  rfl

/-- The seconds of a countdown are those beyond the whole minutes. -/
@[simp] theorem seconds_ofSeconds (left : Nat) :
    (ofSeconds left).seconds = padZeros 2 (natDigits (left % 60)) :=
  rfl

/-- The countdown of a number of seconds tells that number. -/
@[simp] theorem left_ofSeconds (left : Nat) : (ofSeconds left).left = left := by
  rw [Countdown.left, minutes_ofSeconds, seconds_ofSeconds, digitsValue_padZeros,
    digitsValue_padZeros, digitsValue_natDigits, digitsValue_natDigits, Nat.div_add_mod]

/-- Every countdown is that of the seconds it tells. -/
theorem ofSeconds_left (shown : Countdown) : ofSeconds shown.left = shown := by
  -- The seconds are less than a minute, so the division by sixty takes both parts out again.
  have below := shown.secondsBelow
  have nonempty : ∀ digits : List Char, 2 ≤ digits.length → digits ≠ [] := by
    rintro digits wide rfl
    exact absurd wide (by decide)
  ext1
  · have minutes : shown.left / 60 = digitsValue shown.minutes := by
      rw [left]
      omega
    rw [minutes_ofSeconds, minutes]
    exact padZeros_digitsValue_of_head? (nonempty _ shown.minutesWide) shown.minutesRow
      shown.minutesWide shown.minutesLead
  · have seconds : shown.left % 60 = digitsValue shown.seconds := by
      rw [left]
      omega
    have wide := shown.secondsWide
    rw [seconds_ofSeconds, seconds]
    exact padZeros_digitsValue_of_head? (nonempty _ wide.ge) shown.secondsRow wide.ge
      fun wider => absurd wide wider.ne'

/-- A countdown is known from the seconds that it has left. -/
theorem eq_of_left (same : shown.left = other.left) : shown = other := by
  rw [← ofSeconds_left shown, same, ofSeconds_left]

/-- A text is that of one countdown at most, as the last two characters are the seconds. -/
theorem eq_of_text (same : shown.text = other.text) : shown = other := by
  -- The parts behind the minutes are equally long, so the texts can be taken apart there.
  have wide : (':' :: shown.seconds).length = (':' :: other.seconds).length := by
    rw [List.length_cons, List.length_cons, shown.secondsWide, other.secondsWide]
  obtain ⟨minutes, rest⟩ := List.append_inj' same wide
  ext1
  · exact minutes
  · exact (List.cons.inj rest).2

/-- Two countdowns read alike just when they tell the same number of seconds. -/
theorem text_eq_iff : shown.text = other.text ↔ shown.left = other.left :=
  ⟨fun same => congrArg left (eq_of_text same), fun same => congrArg text (eq_of_left same)⟩

end Countdown

/-- What is written is the text of the countdown of that many seconds, or of none left. -/
theorem countdownText_eq (seconds : Int64) :
    countdownText seconds = (Countdown.ofSeconds seconds.toInt.toNat).text :=
  rfl

/--
The text of a countdown shows the seconds left, nothing below zero, and no other number.

What is written has the form of a countdown, which tells the seconds. A text of this form tells one
number of seconds, and a number is told by one text. So two numbers share a text just when nothing
is left of either, or when they are the same.
-/
theorem countdown_shows_seconds_left :
    (∀ seconds : Int64, ∃ shown : Countdown, countdownText seconds = shown.text ∧
      (shown.left : Int) = max seconds.toInt 0) ∧
    (∀ shown other : Countdown, shown.text = other.text ↔ shown.left = other.left) ∧
    ∀ seconds other : Int64, countdownText seconds = countdownText other ↔
      max seconds.toInt 0 = max other.toInt 0 := by
  -- A word below zero shows what zero shows.
  refine ⟨fun seconds => ⟨.ofSeconds seconds.toInt.toNat, countdownText_eq seconds, ?_⟩,
    fun shown other => Countdown.text_eq_iff, fun seconds other => ?_⟩
  · rw [Countdown.left_ofSeconds, Int.toNat_eq_max]
  · rw [countdownText_eq, countdownText_eq, Countdown.text_eq_iff, Countdown.left_ofSeconds,
      Countdown.left_ofSeconds, ← Int.toNat_eq_max, ← Int.toNat_eq_max, Int.ofNat_inj]

/-- The longest time that a word holds is shown with all its minutes. -/
example : countdownText 9223372036854775807 = "153722867280912930:07".toList := by decide

end Scoreboard
