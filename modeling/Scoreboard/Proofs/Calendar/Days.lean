import Mathlib.Logic.Function.Iterate
import Scoreboard.Calendar.Date

/-! Days: turning the pages of the calendar one by one counts the numbers that dates have. -/

namespace Scoreboard

/-- How many days a year has. -/
def daysInYear (year : Int) : Nat :=
  if isLeapYear year then 366 else 365

section Years

/-- Every fourth year is a leap year, but of the full centuries only every fourth one. -/
theorem isLeapYear_iff {year : Int} :
    isLeapYear year = true ↔ year % 4 = 0 ∧ (year % 100 ≠ 0 ∨ year % 400 = 0) := by
  simp [isLeapYear]

/-- A year begins behind all days of the one before it. -/
theorem daysBeforeYear_succ (year : Int) :
    daysBeforeYear (year + 1) = daysBeforeYear year + daysInYear year := by
  -- One more leap day has passed just when the year before had one.
  simp only [daysBeforeYear, daysInYear]
  split
  · rename_i leap
    have rule := isLeapYear_iff.mp leap
    omega
  · rename_i plain
    have rule := mt isLeapYear_iff.mpr plain
    omega

/-- A year begins no sooner than the days of every year before it are over. -/
theorem daysBeforeYear_add_le {year later : Int} (before : year < later) :
    daysBeforeYear year + daysInYear year ≤ daysBeforeYear later := by
  rw [← daysBeforeYear_succ]
  simp only [daysBeforeYear]
  omega

end Years

section Months

variable {month later : Nat}

/-- Every month has a day. -/
theorem daysInMonth_pos (year : Int) (month : Nat) : 1 ≤ daysInMonth year month := by
  -- February has a length for each kind of year, and the others have one each.
  unfold daysInMonth
  split
  · split <;> decide
  all_goals decide

/-- No month has more than 31 days. -/
theorem daysInMonth_le (year : Int) (month : Nat) : daysInMonth year month ≤ 31 := by
  -- The lengths are looked through one by one.
  unfold daysInMonth
  split
  · split <;> decide
  all_goals decide

/-- A month begins behind all days of the one before it. -/
theorem daysBeforeMonth_succ (year : Int) (positive : 1 ≤ month) :
    daysBeforeMonth year (month + 1) = daysBeforeMonth year month + daysInMonth year month := by
  -- The days are summed over the months in front, and this month is the last of them.
  obtain ⟨earlier, rfl⟩ := Nat.exists_eq_add_of_le positive
  have months : List.range' 1 (1 + earlier + 1 - 1) =
      List.range' 1 (1 + earlier - 1) ++ [1 + earlier] := by
    rw [Nat.add_sub_cancel, Nat.add_sub_cancel_left, Nat.add_comm 1 earlier, List.range'_1_concat,
      Nat.add_comm]
  rw [daysBeforeMonth, months, List.foldl_append]
  rfl

/-- A month begins no sooner than the days of every month before it are over. -/
theorem daysBeforeMonth_add_le (year : Int) (positive : 1 ≤ month) (before : month < later) :
    daysBeforeMonth year month + daysInMonth year month ≤ daysBeforeMonth year later := by
  -- The induction is on the months in between, whose days only add to the sum.
  induction before with
  | refl => exact Nat.le_of_eq (daysBeforeMonth_succ year positive).symm
  | step before ih =>
    rw [daysBeforeMonth_succ year (Nat.le_trans positive (Nat.le_of_lt before))]
    exact Nat.le_trans ih (Nat.le_add_right _ _)

/-- The days of a year are those of its twelve months. -/
theorem daysBeforeMonth_thirteen (year : Int) : daysBeforeMonth year 13 = daysInYear year := by
  unfold daysInYear
  cases leap : isLeapYear year <;> simp [daysBeforeMonth, List.range', daysInMonth, leap]

end Months

namespace Date

/-- The first of January 1970. -/
def epoch : Date :=
  ⟨1970, 1, 1⟩

/-- The day after a date. -/
def next (date : Date) : Date :=
  if date.day < daysInMonth date.year date.month then { date with day := date.day + 1 }
  else if date.month < 12 then ⟨date.year, date.month + 1, 1⟩
  else ⟨date.year + 1, 1, 1⟩

/-- The day before a date. -/
def previous (date : Date) : Date :=
  if 1 < date.day then { date with day := date.day - 1 }
  else if 1 < date.month then
    ⟨date.year, date.month - 1, daysInMonth date.year (date.month - 1)⟩
  else ⟨date.year - 1, 12, 31⟩

/-- The date so many days from the first of January 1970, page by page. -/
def ofUnixDay : Int → Date
  | .ofNat days => next^[days] epoch
  | .negSucc days => previous^[days + 1] epoch

variable {date other : Date}

/-- A day lies within its year. -/
theorem Valid.within (valid : date.Valid) :
    0 ≤ (daysBeforeMonth date.year date.month : Int) + (date.day - 1) ∧
      (daysBeforeMonth date.year date.month : Int) + (date.day - 1) < daysInYear date.year := by
  -- The days of all months in front and of this one are at most those of twelve months.
  obtain ⟨first, last, begun, ended⟩ := valid
  have month := daysBeforeMonth_add_le date.year first (Nat.lt_succ_of_le last)
  rw [daysBeforeMonth_thirteen] at month
  omega

/-- The day after a date of the calendar is one. -/
theorem next_valid (valid : date.Valid) : date.next.Valid := by
  -- The next day is in the same month, or the first of the next one, or the first of a year.
  obtain ⟨first, last, begun, ended⟩ := valid
  unfold next
  split
  · rename_i within
    exact ⟨first, last, Nat.le_succ_of_le begun, within⟩
  · split
    · rename_i within
      exact ⟨Nat.le_succ_of_le first, within, Nat.le_refl 1, daysInMonth_pos _ _⟩
    · exact ⟨Nat.le_refl 1, Nat.succ_le_succ (Nat.zero_le 11), Nat.le_refl 1, daysInMonth_pos _ _⟩

/-- The day before a date of the calendar is one. -/
theorem previous_valid (valid : date.Valid) : date.previous.Valid := by
  -- The day before is in the same month, or the last of the one before, or the last of a year.
  obtain ⟨first, last, begun, ended⟩ := valid
  unfold previous
  split
  · rename_i within
    exact ⟨first, last, Nat.le_sub_one_of_lt within, Nat.le_trans (Nat.sub_le _ _) ended⟩
  · split
    · rename_i within
      exact ⟨Nat.le_sub_one_of_lt within, Nat.le_trans (Nat.sub_le _ _) last,
        daysInMonth_pos _ _, Nat.le_refl _⟩
    · exact ⟨Nat.succ_le_succ (Nat.zero_le 11), Nat.le_refl 12,
        Nat.succ_le_succ (Nat.zero_le 30), Nat.le_refl 31⟩

/-- The day after a date has the next number. -/
theorem unixDay_next (valid : date.Valid) : date.next.unixDay = date.unixDay + 1 := by
  obtain ⟨first, last, begun, ended⟩ := valid
  -- The three ways to the next day each add one to another part of the sum.
  unfold next
  split
  · simp only [unixDay]
    omega
  · -- The day was the last one of its month.
    rename_i lastDay
    have day : date.day = daysInMonth date.year date.month := by omega
    split
    · simp only [unixDay, daysBeforeMonth_succ date.year first]
      omega
    · -- The month was the last one of its year.
      rename_i december
      have month : date.month = 12 := by omega
      have year := daysBeforeMonth_thirteen date.year
      rw [daysBeforeMonth_succ date.year (by decide : 1 ≤ 12)] at year
      have january : daysBeforeMonth (date.year + 1) 1 = 0 := rfl
      simp only [unixDay, daysBeforeYear_succ, january]
      rw [month] at day ⊢
      omega

/-- The day before a date is the one that it comes after. -/
theorem next_previous (valid : date.Valid) : date.previous.next = date := by
  obtain ⟨first, last, begun, ended⟩ := valid
  obtain ⟨year, month, day⟩ := date
  dsimp only at first last begun ended
  -- Each way back is undone by the way forth of the same kind.
  unfold previous
  dsimp only
  split
  · simp only [next]
    rw [if_pos (by omega), Nat.sub_add_cancel begun]
  · -- The day was the first one of its month.
    rename_i start
    obtain rfl : day = 1 := by omega
    split
    · simp only [next, Nat.lt_irrefl, if_false]
      rw [if_pos (by omega), Nat.sub_add_cancel first]
    · -- The month was the first one of its year.
      rename_i january
      obtain rfl : month = 1 := by omega
      simp [next, daysInMonth]

/-- The day before a date has the number before its own. -/
theorem unixDay_previous (valid : date.Valid) : date.previous.unixDay = date.unixDay - 1 := by
  have after := unixDay_next (previous_valid valid)
  rw [next_previous valid] at after
  omega

/-- The day from which all others are counted is a date of the calendar. -/
theorem epoch_valid : epoch.Valid := by
  decide

/-- The days are counted from zero. -/
theorem unixDay_epoch : epoch.unixDay = 0 := by
  decide

/-- Turning pages forward counts up. -/
theorem next_iterate (days : Nat) :
    (next^[days] epoch).Valid ∧ (next^[days] epoch).unixDay = days := by
  -- The induction is on the pages.
  induction days with
  | zero => exact ⟨epoch_valid, unixDay_epoch⟩
  | succ days ih =>
    rw [Function.iterate_succ_apply']
    refine ⟨next_valid ih.1, ?_⟩
    rw [unixDay_next ih.1, ih.2]
    rfl

/-- Turning pages backward counts down. -/
theorem previous_iterate (days : Nat) :
    (previous^[days] epoch).Valid ∧ (previous^[days] epoch).unixDay = -days := by
  -- The induction is on the pages.
  induction days with
  | zero => exact ⟨epoch_valid, unixDay_epoch⟩
  | succ days ih =>
    rw [Function.iterate_succ_apply']
    refine ⟨previous_valid ih.1, ?_⟩
    rw [unixDay_previous ih.1, ih.2]
    omega

/-- The pages of the calendar are dates, each with its number. -/
theorem ofUnixDay_spec (day : Int) : (ofUnixDay day).Valid ∧ (ofUnixDay day).unixDay = day := by
  cases day with
  | ofNat days => exact next_iterate days
  | negSucc days => exact previous_iterate (days + 1)

/-- No two dates have the same number. -/
theorem eq_of_unixDay (valid : date.Valid) (otherValid : other.Valid)
    (same : date.unixDay = other.unixDay) : date = other := by
  have place := valid.within
  have otherPlace := otherValid.within
  obtain ⟨first, last, begun, ended⟩ := valid
  obtain ⟨otherFirst, otherLast, otherBegun, otherEnded⟩ := otherValid
  obtain ⟨year, month, day⟩ := date
  obtain ⟨otherYear, otherMonth, otherDay⟩ := other
  simp only [unixDay] at *
  -- All days of a year come before those of a later one, and so do those of a month.
  obtain rfl : year = otherYear := by
    rcases Int.lt_trichotomy year otherYear with before | rfl | behind
    · have apart := daysBeforeYear_add_le before
      omega
    · rfl
    · have apart := daysBeforeYear_add_le behind
      omega
  obtain rfl : month = otherMonth := by
    rcases Nat.lt_trichotomy month otherMonth with before | rfl | behind
    · have apart := daysBeforeMonth_add_le year first before
      omega
    · rfl
    · have apart := daysBeforeMonth_add_le year otherFirst behind
      omega
  obtain rfl : day = otherDay := by omega
  rfl

/-- Every date is on the page that its number leads to. -/
theorem ofUnixDay_unixDay (valid : date.Valid) : ofUnixDay date.unixDay = date :=
  eq_of_unixDay (ofUnixDay_spec _).1 valid (ofUnixDay_spec _).2

end Date

end Scoreboard
