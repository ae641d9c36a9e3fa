/-! Days of the Gregorian calendar, extended to all years, counted from the first of January 1970. -/

namespace Scoreboard

/-- Whether a year has a leap day. -/
def isLeapYear (year : Int) : Bool :=
  year % 4 = 0 && (year % 100 ≠ 0 || year % 400 = 0)

/-- How many days a month has. -/
def daysInMonth (year : Int) (month : Nat) : Nat :=
  match month with
  | 2 => if isLeapYear year then 29 else 28
  | 4 | 6 | 9 | 11 => 30
  | _ => 31

/-- How many days the months of a year before a given one have together. -/
def daysBeforeMonth (year : Int) (month : Nat) : Nat :=
  (List.range' 1 (month - 1)).foldl (fun days earlier => days + daysInMonth year earlier) 0

/-- How many days lie between the start of year one and the start of a year. -/
def daysBeforeYear (year : Int) : Int :=
  -- Every fourth year brings a leap day, except three centuries out of four.
  let past := year - 1
  365 * past + past / 4 - past / 100 + past / 400

/-- A day of the calendar. -/
structure Date where
  year : Int
  /-- From one to twelve. -/
  month : Nat
  /-- From one to the number of days of the month. -/
  day : Nat
deriving DecidableEq, Repr

/-- Whether a day exists. -/
def Date.Valid (date : Date) : Prop :=
  1 ≤ date.month ∧ date.month ≤ 12 ∧ 1 ≤ date.day ∧ date.day ≤ daysInMonth date.year date.month

instance (date : Date) : Decidable date.Valid :=
  inferInstanceAs (Decidable (_ ∧ _ ∧ _ ∧ _))

/-- The number of a day, the first of January 1970 being day zero. -/
def Date.unixDay (date : Date) : Int :=
  daysBeforeYear date.year + daysBeforeMonth date.year date.month + (date.day - 1)
    - daysBeforeYear 1970

end Scoreboard
