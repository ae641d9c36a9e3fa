import Mathlib.Data.List.Induction
import Mathlib.Data.Rat.Floor
import Scoreboard.LiveState
import Scoreboard.Proofs.Calendar.HttpDates

/-! The clock offset: how far the local clock is ahead of the last second that was told. -/

namespace Scoreboard

/-- A response, and the reading of the local clock in Unix milliseconds at which it came. -/
structure Arrival where
  response : StateResponse
  now : Int
deriving DecidableEq, Repr

/-- A clock shows a moment in a year of four digits. -/
def OnCalendar (now : Int) : Prop :=
  yearStart (-9999) * 1000 ≤ now ∧ now < yearStart 10000 * 1000

instance (now : Int) : Decidable (OnCalendar now) :=
  inferInstanceAs (Decidable (_ ∧ _))

/-- The date header of the last of some responses. -/
def lastHeader (arrivals : List Arrival) : Option String :=
  arrivals.getLast?.bind fun arrival => arrival.response.date

/-- A response tells the server's second: its header is a date, and not the header before it. -/
def StateResponse.Tells (response : StateResponse) (before : Option String) (second : Int) : Prop :=
  ∃ header, response.date = some header ∧ before ≠ some header ∧
    httpDateSecond header = .ok second

/-- None of some responses behind a header tells the server's second. -/
def Quiet (before : Option String) : List Arrival → Prop
  | [] => True
  | arrival :: later =>
    (∀ second, ¬ arrival.response.Tells before second) ∧ Quiet arrival.response.date later

namespace LiveState

/-- The state after responses that came one after the other. -/
def after (live : LiveState) (arrivals : List Arrival) : LiveState :=
  arrivals.foldl (fun live arrival => live.apply arrival.response arrival.now) live

section Steps

variable {live : LiveState} {response : StateResponse} {now second : Int}

/-- A response that tells the server's second sets the clock against it. -/
theorem clockDelta_apply_of_tells (tells : response.Tells live.lastDate second) :
    (live.apply response now).clockDelta = Int64.ofInt ((now - second * 1000).fdiv 1000) := by
  obtain ⟨header, there, new, date⟩ := tells
  show live.deltaAfter response.date now = _
  rw [there, deltaAfter, if_neg new, date]

/-- A response that does not tell the server's second leaves the offset as it was. -/
theorem clockDelta_apply_of_quiet (quiet : ∀ second, ¬ response.Tells live.lastDate second) :
    (live.apply response now).clockDelta = live.clockDelta := by
  -- A header is absent, or the one before it, or no date.
  show live.deltaAfter response.date now = _
  cases there : response.date with
  | none => rfl
  | some header =>
    by_cases same : live.lastDate = some header
    · rw [deltaAfter, if_pos same]
    · -- The header is new, so it cannot be a date.
      rw [deltaAfter, if_neg same]
      cases date : httpDateSecond header with
      | ok second => exact absurd ⟨header, there, same, date⟩ (quiet second)
      | error problem => rfl

end Steps

section Runs

variable {live other : LiveState} {arrivals others earlier later : List Arrival}
  {arrival : Arrival} {second : Int}

/-- Responses are taken one behind the other. -/
theorem after_append (live : LiveState) (earlier later : List Arrival) :
    live.after (earlier ++ later) = (live.after earlier).after later :=
  List.foldl_append

/-- The last response is taken behind all others. -/
theorem after_concat (live : LiveState) (earlier : List Arrival) (arrival : Arrival) :
    live.after (earlier ++ [arrival]) =
      (live.after earlier).apply arrival.response arrival.now :=
  after_append live earlier [arrival]

/-- The first response is taken before all others. -/
theorem after_cons (live : LiveState) (arrival : Arrival) (later : List Arrival) :
    live.after (arrival :: later) = (live.apply arrival.response arrival.now).after later :=
  rfl

/-- The header that is remembered is that of the last response, whatever it was. -/
theorem lastDate_after (arrivals : List Arrival) :
    (initial.after arrivals).lastDate = lastHeader arrivals := by
  -- From behind: each response leaves its own header, also where it has none.
  induction arrivals using List.reverseRecOn with
  | nil => rfl
  | append_singleton earlier arrival _ =>
    rw [after_concat, lastHeader, List.getLast?_concat]
    rfl

/-- Responses that do not tell the server's second leave the offset as it was. -/
theorem clockDelta_after_of_quiet (quiet : Quiet live.lastDate arrivals) :
    (live.after arrivals).clockDelta = live.clockDelta := by
  -- Each response is quiet behind the header of the one before it, which the state remembers.
  induction arrivals generalizing live with
  | nil => rfl
  | cons arrival later ih =>
    obtain ⟨own, others⟩ := quiet
    rw [after_cons, @ih (live.apply arrival.response arrival.now) others]
    exact clockDelta_apply_of_quiet own

/-- The offset is set against the last second that was told. -/
theorem clockDelta_after_of_tells (tells : arrival.response.Tells live.lastDate second)
    (quiet : Quiet arrival.response.date later) :
    (live.after (arrival :: later)).clockDelta =
      Int64.ofInt ((arrival.now - second * 1000).fdiv 1000) := by
  rw [after_cons, clockDelta_after_of_quiet quiet, clockDelta_apply_of_tells tells]

/-- Runs with the same headers at the same clock readings end with the same offset. -/
theorem clockDelta_after_congr
    (same : others.map (fun arrival => (arrival.response.date, arrival.now)) =
      arrivals.map fun arrival => (arrival.response.date, arrival.now))
    (delta : other.clockDelta = live.clockDelta) (date : other.lastDate = live.lastDate) :
    (other.after others).clockDelta = (live.after arrivals).clockDelta := by
  -- The induction is on the responses. The offset behind one depends on the offset, the header and
  -- the reading only.
  induction arrivals generalizing live other others with
  | nil =>
    obtain rfl := List.map_eq_nil_iff.mp same
    exact delta
  | cons arrival later ih =>
    obtain ⟨twin, rest, rfl, pair, same⟩ := List.map_eq_cons_iff.mp same
    obtain ⟨header, reading⟩ := Prod.mk.inj pair
    refine @ih (live.apply arrival.response arrival.now) (other.apply twin.response twin.now) rest
      same ?_ header
    show other.deltaAfter twin.response.date twin.now =
      live.deltaAfter arrival.response.date arrival.now
    rw [header, reading]
    simp only [deltaAfter, delta, date]

end Runs

end LiveState

section Offsets

variable {now second : Int}

/-- The first second of the first year with a text. -/
theorem yearStart_first : yearStart (-9999) = -377705116800 := by
  decide

/-- The first second beyond the last year with a text. -/
theorem yearStart_last : yearStart 10000 = 253402300800 := by
  decide

/-- Seconds of the calendar are few beside what a word holds. -/
theorem OnCalendar.small (reading : OnCalendar now) :
    -377705116800 ≤ now / 1000 ∧ now / 1000 < 253402300800 := by
  -- The calendar begins and ends at seconds of twelve digits.
  obtain ⟨begun, ended⟩ := reading
  rw [yearStart_first] at begun
  rw [yearStart_last] at ended
  omega

/-- The offset is the distance of the two clocks in whole seconds. -/
theorem fdiv_offset (now second : Int) :
    (now - second * 1000).fdiv 1000 = now / 1000 - second := by
  rw [Int.fdiv_eq_ediv_of_nonneg _ (by decide)]
  omega

/-- The offset of a clock on the calendar fits into its place, whatever second the server tells. -/
theorem toInt_offset (reading : OnCalendar now) (begun : yearStart (-9999) ≤ second)
    (ended : second < yearStart 10000) :
    (Int64.ofInt ((now - second * 1000).fdiv 1000)).toInt = now / 1000 - second := by
  -- Both seconds are of twelve digits at most, and a word has room for more than eighteen.
  have small := reading.small
  rw [yearStart_first] at begun
  rw [yearStart_last] at ended
  rw [fdiv_offset, Int64.toInt_ofInt_of_le (by omega) (by omega)]

/-- Whole seconds of a difference in milliseconds, rounded down. -/
theorem floor_offset (now second : Int) :
    ⌊((now : ℚ) - 1000 * second) / 1000⌋ = now / 1000 - second := by
  -- The difference of the fractions is a fraction of integers, which is rounded as a division is.
  have difference : ((now : ℚ) - 1000 * second) / 1000 =
      ((now - 1000 * second : Int) : ℚ) / ((1000 : Nat) : ℚ) := by
    push_cast
    rfl
  rw [difference, Rat.floor_intCast_div_natCast]
  omega

end Offsets

namespace LiveState

/--
The offset is the whole seconds by which the clock was ahead of the last second that was told.

A response tells the server's second when its header is there, is not that of the response before
it and is a date. As long as none has done so the offset is zero. No other response changes it, and
the documents have no part in it.
-/
theorem offset_follows_last_told_second (arrivals : List Arrival)
    (readings : ∀ arrival ∈ arrivals, OnCalendar arrival.now) :
    (∀ (earlier : List Arrival) (arrival : Arrival) (later : List Arrival) (second : Int),
        arrivals = earlier ++ arrival :: later →
        arrival.response.Tells (lastHeader earlier) second → Quiet arrival.response.date later →
        (initial.after arrivals).clockDelta.toInt =
          ⌊((arrival.now : ℚ) - 1000 * second) / 1000⌋) ∧
      (Quiet none arrivals → (initial.after arrivals).clockDelta = 0) ∧
      (∀ response now, response.date = none ∨ response.date = lastHeader arrivals ∨
          (∃ header problem, response.date = some header ∧
            httpDateSecond header = .error problem) →
        (initial.after (arrivals ++ [⟨response, now⟩])).clockDelta =
          (initial.after arrivals).clockDelta) ∧
      ∀ others : List Arrival,
        others.map (fun arrival => (arrival.response.date, arrival.now)) =
          arrivals.map (fun arrival => (arrival.response.date, arrival.now)) →
        (initial.after others).clockDelta = (initial.after arrivals).clockDelta := by
  -- A run is split at its last telling response, and what is behind it is quiet.
  refine ⟨?_, fun quiet => clockDelta_after_of_quiet quiet, ?_, fun others same =>
    clockDelta_after_congr same rfl rfl⟩
  · rintro earlier arrival later second rfl tells quiet
    rw [← lastDate_after] at tells
    rw [after_append, clockDelta_after_of_tells tells quiet, floor_offset]
    obtain ⟨_, _, _, date⟩ := tells
    obtain ⟨begun, ended⟩ := httpDateSecond_within date
    exact toInt_offset (readings arrival (by simp)) begun ended
  · intro response now useless
    rw [after_concat]
    refine clockDelta_apply_of_quiet fun second => ?_
    rw [lastDate_after]
    rintro ⟨header, there, new, date⟩
    rcases useless with missing | repeated | ⟨malformed, problem, same, broken⟩
    · cases missing.symm.trans there
    · exact new (repeated.symm.trans there)
    · cases same.symm.trans there
      cases broken.symm.trans date

/-- Responses that show one date twice, with a response without a date between, and then no date. -/
def forgetfulArrivals : List Arrival :=
  [⟨⟨.unknown, some "Thu, 01 Jan 1970 00:00:02 GMT"⟩, 5000⟩, ⟨⟨.unknown, none⟩, 6000⟩,
    ⟨⟨.unknown, some "Thu, 01 Jan 1970 00:00:02 GMT"⟩, -500⟩, ⟨⟨.unknown, some "soon"⟩, 9000⟩]

/-- A date that was forgotten sets the clock again, here half a second before 1970. -/
theorem forgotten_date_sets_clock_again :
    (∀ arrival ∈ forgetfulArrivals, OnCalendar arrival.now) ∧
      (initial.after forgetfulArrivals).clockDelta.toInt = -3 := by
  -- The response in between has no header, so that of the third one is new although it is no news.
  have readings : ∀ arrival ∈ forgetfulArrivals, OnCalendar arrival.now := by
    decide
  have told : httpDateSecond "Thu, 01 Jan 1970 00:00:02 GMT" = .ok 2 := by
    decide
  have broken : httpDateSecond "soon" = .error (.part .weekday) := by
    decide
  refine ⟨readings, ?_⟩
  rw [(offset_follows_last_told_second forgetfulArrivals readings).1
    [⟨⟨.unknown, some "Thu, 01 Jan 1970 00:00:02 GMT"⟩, 5000⟩, ⟨⟨.unknown, none⟩, 6000⟩]
    ⟨⟨.unknown, some "Thu, 01 Jan 1970 00:00:02 GMT"⟩, -500⟩ [⟨⟨.unknown, some "soon"⟩, 9000⟩] 2 rfl
    ⟨_, rfl, nofun, told⟩ ⟨?_, trivial⟩]
  · norm_num
  · -- The last response has a new header, which is no date.
    rintro second ⟨header, there, _, date⟩
    cases there
    cases broken.symm.trans date

end LiveState

end Scoreboard
