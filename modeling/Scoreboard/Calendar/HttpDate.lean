import Scoreboard.Calendar.Date
import Scoreboard.Text.Blank
import Scoreboard.Text.Digits

/-! The date a server stamps on its responses: `Tue, 14 Nov 2023 22:13:20 GMT`. -/

namespace Scoreboard

/-- The named parts of a date. -/
inductive DatePart
  | weekday
  | day
  | month
  | year
  | hour
  | minute
  | second
deriving DecidableEq, Repr

/-- Why a text is no date. -/
inductive DateError
  /-- A part cannot be read. -/
  | part (part : DatePart)
  /-- Something else stands where a separator belongs. -/
  | separator
  /-- More text follows the date. -/
  | trailing
  /-- The month has no such day. -/
  | noSuchDay
  /-- The minute has no such second. -/
  | noSuchSecond
deriving DecidableEq, Repr

/-- The word for a part of a date. -/
def DatePart.word : DatePart → String
  | .weekday => "weekday"
  | .day => "day"
  | .month => "month"
  | .year => "year"
  | .hour => "hour"
  | .minute => "minute"
  | .second => "second"

/-- The wording of a refused date. -/
def DateError.message : DateError → String
  | .part which => "the '" ++ which.word ++ "' component could not be parsed"
  | .separator => "a character literal was not valid"
  | .trailing => "unexpected trailing characters; the end of input was expected"
  | .noSuchDay => "day was not in range"
  | .noSuchSecond => "second was not in range"

/-- The names of the days of a week, the first one starting it. -/
def weekdayNames : List String :=
  ["Mon", "Tue", "Wed", "Thu", "Fri", "Sat", "Sun"]

/-- The names of the months of a year. -/
def monthNames : List String :=
  ["Jan", "Feb", "Mar", "Apr", "May", "Jun", "Jul", "Aug", "Sep", "Oct", "Nov", "Dec"]

/-- What reading a part of a date gives: its value with the text behind it. -/
abbrev DateReader (α : Type) := List Char → Except DateError (α × List Char)

/-- One of several names, as its place among them. -/
def readName (part : DatePart) (names : List String) : DateReader Nat := fun text =>
  match names.findIdx? fun name => name.toList.isPrefixOf text with
  | some index => .ok (index, text.drop 3)
  | none => .error (.part part)

/-- A number of exactly so many digits within bounds. -/
def readCount (part : DatePart) (width low high : Nat) : DateReader Nat := fun text =>
  let digits := text.take width
  let value := digitsValue digits
  if digits.length = width ∧ digits.all Char.isDigit ∧ low ≤ value ∧ value ≤ high then
    .ok (value, text.drop width)
  else .error (.part part)

/-- A year of four digits behind an optional sign. -/
def readYear : DateReader Int := fun text =>
  match text with
  | '-' :: rest => (readCount .year 4 0 9999 rest).map fun (year, rest) => (-(year : Int), rest)
  | '+' :: rest => (readCount .year 4 0 9999 rest).map fun (year, rest) => ((year : Int), rest)
  | _ => (readCount .year 4 0 9999 text).map fun (year, rest) => ((year : Int), rest)

/-- The text behind a separator. -/
def readSeparator (separator : String) (text : List Char) : Except DateError (List Char) :=
  if separator.toList.isPrefixOf text then .ok (text.drop separator.length) else .error .separator

/-- A moment as a date header gives it. -/
structure HttpDate where
  weekday : Nat
  date : Date
  hour : Nat
  minute : Nat
  second : Nat
deriving DecidableEq, Repr

/-- The Unix second of a moment; the name of the weekday does not matter to it. -/
def HttpDate.unixSecond (moment : HttpDate) : Int :=
  moment.date.unixDay * 86400 + moment.hour * 3600 + moment.minute * 60 + moment.second

/-- The parts of a date, each where it belongs. -/
def HttpDate.read (text : List Char) : Except DateError (HttpDate × List Char) := do
  let (weekday, text) ← readName .weekday weekdayNames text
  let text ← readSeparator ", " text
  let (day, text) ← readCount .day 2 1 31 text
  let text ← readSeparator " " text
  let (month, text) ← readName .month monthNames text
  let text ← readSeparator " " text
  let (year, text) ← readYear text
  let text ← readSeparator " " text
  let (hour, text) ← readCount .hour 2 0 23 text
  let text ← readSeparator ":" text
  let (minute, text) ← readCount .minute 2 0 59 text
  let text ← readSeparator ":" text
  let (second, text) ← readCount .second 2 0 60 text
  let text ← readSeparator " GMT" text
  .ok (⟨weekday, ⟨year, month + 1, day⟩, hour, minute, second⟩, text)

/-- The moment a whole text gives, blanks around it aside. -/
def HttpDate.parse (text : List Char) : Except DateError HttpDate := do
  -- Whether day and second exist is looked at once nothing is left to read.
  let (moment, rest) ← HttpDate.read (trimBoth isWhiteSpace text)
  if rest ≠ [] then .error .trailing
  else if ¬moment.date.Valid then .error .noSuchDay
  else if 60 ≤ moment.second then .error .noSuchSecond
  else .ok moment

/-- The Unix second a date header gives. -/
def httpDateSecond (header : String) : Except DateError Int :=
  (HttpDate.parse header.toList).map HttpDate.unixSecond

end Scoreboard
