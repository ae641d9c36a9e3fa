import Mathlib.Data.List.GetD
import Mathlib.Data.List.Nodup
import Scoreboard.Calendar.HttpDate
import Scoreboard.Proofs.Calendar.Days
import Scoreboard.Proofs.Results
import Scoreboard.Proofs.Text.Blanks
import Scoreboard.Proofs.Text.Digits

/-! Dates of headers: which texts are one, and the second that each of them gives. -/

namespace Scoreboard

/-- The ways to write a year: four digits, behind a sign or none. -/
inductive YearText : Int → List Char → Prop
  | plain (year : Nat) (short : year ≤ 9999) : YearText year (padZeros 4 (natDigits year))
  | plus (year : Nat) (short : year ≤ 9999) : YearText year ('+' :: padZeros 4 (natDigits year))
  | minus (year : Nat) (short : year ≤ 9999) :
    YearText (-(year : Int)) ('-' :: padZeros 4 (natDigits year))

/-- The Unix second at which a year begins. -/
def yearStart (year : Int) : Int :=
  (Date.mk year 1 1).unixDay * 86400

namespace HttpDate

/-- A moment that exists: its day is in the calendar, and its time on a clock. -/
structure Valid (moment : HttpDate) : Prop where
  weekday : moment.weekday < 7
  date : moment.date.Valid
  hour : moment.hour ≤ 23
  minute : moment.minute ≤ 59
  second : moment.second ≤ 59

/-- The text of a moment around its year, which can be written in more than one way. -/
def textAround (moment : HttpDate) (year : List Char) : List Char :=
  (weekdayNames.getD moment.weekday "").toList ++ (", ".toList ++
    (padZeros 2 (natDigits moment.date.day) ++ (" ".toList ++
    ((monthNames.getD (moment.date.month - 1) "").toList ++ (" ".toList ++
    (year ++ (" ".toList ++
    (padZeros 2 (natDigits moment.hour) ++ (":".toList ++
    (padZeros 2 (natDigits moment.minute) ++ (":".toList ++
    (padZeros 2 (natDigits moment.second) ++ " GMT".toList))))))))))))

/-- A text says a moment that exists, with white space around it or none. -/
structure SaidBy (moment : HttpDate) (text : List Char) : Prop where
  real : moment.Valid
  written : ∃ before year after, YearText moment.date.year year ∧
    text = before ++ moment.textAround year ++ after ∧
    (∀ c ∈ before, isWhiteSpace c = true) ∧ ∀ c ∈ after, isWhiteSpace c = true

/-- The moment that a Unix second is. -/
def ofUnixSecond (second : Int) : HttpDate where
  weekday := ((second / 86400 + 3) % 7).toNat
  date := .ofUnixDay (second / 86400)
  hour := (second % 86400 / 3600).toNat
  minute := (second % 3600 / 60).toNat
  second := (second % 60).toNat

/-- The text of a moment in a year from zero on. -/
def text (moment : HttpDate) : List Char :=
  moment.textAround (padZeros 4 (natDigits moment.date.year.toNat))

end HttpDate

section Readers

variable {part : DatePart} {names : List String} {text rest : List Char}

/-- A name is read when the text starts with it, provided that it is as long as all others. -/
theorem readName_eq_ok_iff {index : Nat} (three : ∀ name ∈ names, name.toList.length = 3)
    (distinct : names.Nodup) : readName part names text = .ok (index, rest) ↔
      index < names.length ∧ text = (names.getD index "").toList ++ rest := by
  -- Two names at the start of one text are equally long, so they are the same.
  have only : ∀ name ∈ names, ∀ other ∈ names, name.toList <+: text → other.toList <+: text →
      name = other := by
    intro name member other otherMember starts otherStarts
    have long : name.toList.length = other.toList.length := by
      rw [three name member, three other otherMember]
    have inside := List.prefix_of_prefix_length_le starts otherStarts (Nat.le_of_eq long)
    exact String.toList_inj.mp (inside.eq_of_length long)
  have found : (names.findIdx? fun name => name.toList.isPrefixOf text) = some index ↔
      ∃ within : index < names.length, names[index].toList <+: text := by
    simp only [List.findIdx?_eq_some_iff_getElem, List.isPrefixOf_iff_prefix]
    constructor
    · rintro ⟨within, starts, _⟩
      exact ⟨within, starts⟩
    · rintro ⟨within, starts⟩
      refine ⟨within, starts, fun earlier before otherStarts => ?_⟩
      have same := only _ (List.getElem_mem _) _ (List.getElem_mem within) otherStarts starts
      have place := (List.Nodup.getElem_inj_iff distinct).mp same
      omega
  unfold readName
  constructor
  · intro read
    split at read
    · rename_i place first
      cases read
      obtain ⟨within, behind, whole⟩ := found.mp first
      have long := three _ (List.getElem_mem within)
      rw [List.getD_eq_getElem _ _ within]
      exact ⟨within, by rw [← whole, List.drop_left' long]⟩
    · cases read
  · rintro ⟨within, whole⟩
    rw [List.getD_eq_getElem _ _ within] at whole
    have long := three _ (List.getElem_mem within)
    rw [found.mpr ⟨within, rest, whole.symm⟩, whole]
    dsimp only
    rw [List.drop_left' long]

/-- A number of fixed width is read when the text starts with all its digits. -/
theorem readCount_eq_ok_iff {width low high value : Nat} (positive : 0 < width)
    (fits : high < 10 ^ width) : readCount part width low high text = .ok (value, rest) ↔
      low ≤ value ∧ value ≤ high ∧ text = padZeros width (natDigits value) ++ rest := by
  -- A row that is as wide as it has to be is the number it spells, with its zeros in front.
  unfold readCount
  dsimp only
  constructor
  · intro read
    split at read
    · rename_i row
      obtain ⟨long, digits, above, below⟩ := row
      cases read
      refine ⟨above, below, ?_⟩
      have some : text.take width ≠ [] := by
        rintro none
        rw [none] at long
        exact absurd long (Nat.ne_of_lt positive)
      have same := padZeros_digitsValue some (List.all_eq_true.mp digits)
      rw [long] at same
      rw [same, List.take_append_drop]
    · cases read
  · rintro ⟨above, below, rfl⟩
    have long := length_padZeros positive (Nat.lt_of_le_of_lt below fits)
    have digits : (padZeros width (natDigits value)).all Char.isDigit = true :=
      List.all_eq_true.mpr fun c => isDigit_of_mem_padZeros
    have spelled : digitsValue (padZeros width (natDigits value)) = value := by
      rw [digitsValue_padZeros, digitsValue_natDigits]
    rw [List.take_left' long, List.drop_left' long, spelled, if_pos ⟨long, digits, above, below⟩]

/-- A separator is read where it stands, and nothing else is. -/
theorem readSeparator_eq_ok_iff {separator : String} :
    readSeparator separator text = .ok rest ↔ text = separator.toList ++ rest := by
  -- What is dropped is as long as the separator, which stands in front.
  unfold readSeparator
  rw [← String.length_toList]
  constructor
  · intro read
    split at read
    · rename_i starts
      cases read
      obtain ⟨behind, rfl⟩ := List.isPrefixOf_iff_prefix.mp starts
      rw [List.drop_left]
    · cases read
  · rintro rfl
    rw [if_pos (List.isPrefixOf_iff_prefix.mpr (List.prefix_append _ _)), List.drop_left]

/-- A year is read when the text starts with one of the ways to write it. -/
theorem readYear_eq_ok_iff {year : Int} : readYear text = .ok (year, rest) ↔
    ∃ written, YearText year written ∧ text = written ++ rest := by
  have digits : ∀ {text : List Char} {value : Nat},
      readCount .year 4 0 9999 text = .ok (value, rest) ↔
        value ≤ 9999 ∧ text = padZeros 4 (natDigits value) ++ rest := by
    intro text value
    rw [readCount_eq_ok_iff (by decide) (by decide)]
    exact and_iff_right (Nat.zero_le value)
  constructor
  · intro read
    unfold readYear at read
    -- The sign decides which year the same four digits are.
    split at read <;>
      obtain ⟨⟨value, behind⟩, row, same⟩ := map_eq_ok_iff.mp read <;>
      cases same <;>
      obtain ⟨short, rfl⟩ := digits.mp row
    · exact ⟨_, .minus value short, rfl⟩
    · exact ⟨_, .plus value short, rfl⟩
    · exact ⟨_, .plain value short, rfl⟩
  · rintro ⟨written, way, rfl⟩
    cases way with
    | minus value short => exact map_eq_ok_iff.mpr ⟨_, digits.mpr ⟨short, rfl⟩, rfl⟩
    | plus value short => exact map_eq_ok_iff.mpr ⟨_, digits.mpr ⟨short, rfl⟩, rfl⟩
    | plain value short =>
      -- No digit is a sign, so the text is read as it stands.
      have row := digits.mpr ⟨short, rfl⟩
      have long : (padZeros 4 (natDigits value)).length = 4 :=
        length_padZeros (by decide) (Nat.lt_succ_of_le short)
      obtain ⟨c, others, shape⟩ := List.exists_cons_of_length_eq_add_one long
      have digit : c.isDigit = true := isDigit_of_mem_padZeros (shape ▸ List.mem_cons_self)
      rw [shape] at row ⊢
      unfold readYear
      split
      · rename_i same
        cases same
        cases digit
      · rename_i same
        cases same
        cases digit
      · exact map_eq_ok_iff.mpr ⟨_, row, rfl⟩

end Readers

namespace HttpDate

variable {moment : HttpDate} {text rest : List Char}

/-- Each part of a moment is within what its reader takes. -/
structure Readable (moment : HttpDate) : Prop where
  weekday : moment.weekday < 7
  day : 1 ≤ moment.date.day ∧ moment.date.day ≤ 31
  month : 1 ≤ moment.date.month ∧ moment.date.month ≤ 12
  hour : moment.hour ≤ 23
  minute : moment.minute ≤ 59
  second : moment.second ≤ 60

/-- A moment is read when the text starts with what it can be written as. -/
theorem read_eq_ok_iff : read text = .ok (moment, rest) ↔
    moment.Readable ∧ ∃ year, YearText moment.date.year year ∧
      text = moment.textAround year ++ rest := by
  have weekdays : ∀ name ∈ weekdayNames, name.toList.length = 3 := by decide
  have months : ∀ name ∈ monthNames, name.toList.length = 3 := by decide
  simp only [read, bind_eq_ok_iff, Prod.exists, readName_eq_ok_iff weekdays (by decide),
    readName_eq_ok_iff months (by decide), readSeparator_eq_ok_iff, readYear_eq_ok_iff,
    readCount_eq_ok_iff (by decide : 0 < 2) (by decide : 31 < 10 ^ 2),
    readCount_eq_ok_iff (by decide : 0 < 2) (by decide : 23 < 10 ^ 2),
    readCount_eq_ok_iff (by decide : 0 < 2) (by decide : 59 < 10 ^ 2),
    readCount_eq_ok_iff (by decide : 0 < 2) (by decide : 60 < 10 ^ 2)]
  constructor
  · rintro ⟨weekday, _, ⟨weekdayBound, rfl⟩, _, rfl, day, _, ⟨dayLow, dayHigh, rfl⟩, _, rfl,
      month, _, ⟨monthBound, rfl⟩, _, rfl, year, _, ⟨written, way, rfl⟩, _, rfl,
      hour, _, ⟨_, hourBound, rfl⟩, _, rfl, minute, _, ⟨_, minuteBound, rfl⟩, _, rfl,
      second, _, ⟨_, secondBound, rfl⟩, _, rfl, same⟩
    cases same
    refine ⟨⟨weekdayBound, ⟨dayLow, dayHigh⟩, ⟨Nat.le_add_left 1 month, monthBound⟩, hourBound,
      minuteBound, secondBound⟩, written, way, ?_⟩
    simp only [textAround, List.append_assoc, Nat.add_sub_cancel]
  · rintro ⟨within, written, way, rfl⟩
    obtain ⟨weekday, ⟨year, month, day⟩, hour, minute, second⟩ := moment
    obtain ⟨weekdayBound, ⟨dayLow, dayHigh⟩, ⟨monthLow, monthHigh⟩, hourBound, minuteBound,
      secondBound⟩ := within
    have place : month - 1 < monthNames.length := Nat.sub_one_lt_of_le monthLow monthHigh
    have back : month - 1 + 1 = month := Nat.sub_add_cancel monthLow
    -- Each part is read off the front, and the next one starts right behind its separator.
    refine ⟨weekday, _, ⟨weekdayBound, ?_⟩, _, rfl, day, _, ⟨dayLow, dayHigh, rfl⟩, _, rfl,
      month - 1, _, ⟨place, rfl⟩, _, rfl, year, _, ⟨written, way, rfl⟩, _, rfl,
      hour, _, ⟨Nat.zero_le _, hourBound, rfl⟩, _, rfl,
      minute, _, ⟨Nat.zero_le _, minuteBound, rfl⟩, _, rfl,
      second, _, ⟨Nat.zero_le _, secondBound, rfl⟩, rest, rfl, ?_⟩
    · simp only [textAround, List.append_assoc]
    · rw [back]

/-- The text of a moment neither starts nor ends with white space. -/
theorem textAround_ends {year : List Char} (weekday : moment.weekday < 7) :
    moment.textAround year ≠ [] ∧
      (∀ c ∈ (moment.textAround year).head?, isWhiteSpace c = false) ∧
      ∀ c ∈ (moment.textAround year).getLast?, isWhiteSpace c = false := by
  -- It starts with the name of its weekday, and ends with the name of the time zone.
  have names : ∀ index < 7,
      (weekdayNames.getD index "").toList.head?.map isWhiteSpace = some false := by
    decide
  obtain ⟨letter, opens, plain⟩ := Option.map_eq_some_iff.mp (names moment.weekday weekday)
  have starts : (moment.textAround year).head? = some letter := by
    rw [textAround, List.head?_append, opens]
    rfl
  have ended : (moment.textAround year).getLast? = some 'T' := by
    simp only [textAround, List.getLast?_append]
    rfl
  refine ⟨fun empty => ?_, fun c first => ?_, fun c last => ?_⟩
  · rw [empty] at ended
    cases ended
  · cases starts.symm.trans first
    exact plain
  · cases ended.symm.trans last
    decide

/-- A moment that exists has parts that can be read. -/
theorem Valid.readable (valid : moment.Valid) : moment.Readable := by
  obtain ⟨first, last, begun, ended⟩ := valid.date
  exact ⟨valid.weekday, ⟨begun, Nat.le_trans ended (daysInMonth_le _ _)⟩, ⟨first, last⟩, valid.hour,
    valid.minute, Nat.le_succ_of_le valid.second⟩

/-- A moment that was read exists when its day is in the calendar and its minute has its second. -/
theorem Readable.valid (readable : moment.Readable) (date : moment.date.Valid)
    (second : moment.second < 60) : moment.Valid :=
  ⟨readable.weekday, date, readable.hour, readable.minute, Nat.le_of_lt_succ second⟩

/-- A text is read when what trimming leaves of it is all that a moment can be written as. -/
theorem parse_eq_ok_iff : parse text = .ok moment ↔
    moment.Valid ∧ ∃ year, YearText moment.date.year year ∧
      trimBoth isWhiteSpace text = moment.textAround year := by
  -- Nothing may be left to read, and the moment that was read has to exist.
  have judged : ∀ (found : HttpDate) (rest : List Char),
      (if rest ≠ [] then Except.error DateError.trailing
        else if ¬found.date.Valid then .error .noSuchDay
        else if 60 ≤ found.second then .error .noSuchSecond
        else .ok found) = .ok moment ↔
      rest = [] ∧ found = moment ∧ moment.date.Valid ∧ moment.second < 60 := by
    intro found rest
    constructor
    · intro accepted
      split at accepted
      · cases accepted
      · rename_i whole
        split at accepted
        · cases accepted
        · rename_i date
          split at accepted
          · cases accepted
          · rename_i second
            cases accepted
            exact ⟨not_not.mp whole, rfl, not_not.mp date, Nat.lt_of_not_le second⟩
    · rintro ⟨rfl, rfl, date, second⟩
      rw [if_neg (not_not.mpr rfl), if_neg (not_not.mpr date), if_neg (Nat.not_le_of_lt second)]
  simp only [parse, bind_eq_ok_iff, Prod.exists, judged, read_eq_ok_iff]
  constructor
  · rintro ⟨_, _, ⟨readable, year, way, whole⟩, rfl, rfl, date, second⟩
    rw [List.append_nil] at whole
    exact ⟨readable.valid date second, year, way, whole⟩
  · rintro ⟨valid, year, way, whole⟩
    refine ⟨moment, [], ⟨valid.readable, year, way, ?_⟩, rfl, rfl, valid.date,
      Nat.lt_succ_of_le valid.second⟩
    rw [whole, List.append_nil]

/-- The texts that are read as a moment are those that say it. -/
theorem parse_eq_ok_iff_saidBy : parse text = .ok moment ↔ moment.SaidBy text := by
  -- Blanks around the text are trimmed, and a text between blanks starts and ends with none.
  rw [parse_eq_ok_iff]
  constructor
  · rintro ⟨valid, year, way, trimmed⟩
    obtain ⟨before, after, whole, blankBefore, blankAfter⟩ :=
      exists_around_trimBoth isWhiteSpace text
    rw [trimmed] at whole
    exact ⟨valid, before, year, after, way, whole, blankBefore, blankAfter⟩
  · rintro ⟨valid, before, year, after, way, rfl, blankBefore, blankAfter⟩
    obtain ⟨some, first, last⟩ := textAround_ends valid.weekday
    exact ⟨valid, year, way, trimBoth_around some first last blankBefore blankAfter⟩

end HttpDate

section Seconds

variable {moment : HttpDate}

/-- A header gives a second when its text says a moment that is this second. -/
theorem httpDateSecond_eq_ok_iff {header : String} {second : Int} :
    httpDateSecond header = .ok second ↔
      ∃ moment : HttpDate, moment.SaidBy header.toList ∧ moment.unixSecond = second := by
  simp only [httpDateSecond, map_eq_ok_iff, HttpDate.parse_eq_ok_iff_saidBy]

/-- A year that is written has at most four digits. -/
theorem YearText.within {year : Int} {text : List Char} (way : YearText year text) :
    -9999 ≤ year ∧ year ≤ 9999 := by
  cases way <;> omega

/-- A year starts as many days behind the epoch as the years between them have. -/
theorem yearStart_eq (year : Int) :
    yearStart year = (daysBeforeYear year - daysBeforeYear 1970) * 86400 := by
  have january : daysBeforeMonth year 1 = 0 := rfl
  simp [yearStart, Date.unixDay, january]

/-- A later year starts later. -/
theorem yearStart_lt {year later : Int} (before : year < later) :
    yearStart year < yearStart later := by
  -- Every year in between has days.
  have days := daysBeforeYear_add_le before
  have long : 365 ≤ daysInYear year := by
    unfold daysInYear
    split <;> decide
  rw [yearStart_eq, yearStart_eq]
  omega

/-- No year starts before an earlier one. -/
theorem yearStart_le {year later : Int} (before : year ≤ later) :
    yearStart year ≤ yearStart later := by
  rcases Int.lt_or_eq_of_le before with earlier | rfl
  · exact Int.le_of_lt (yearStart_lt earlier)
  · exact Int.le_refl _

/-- A moment lies between the start of its year and the start of the next one. -/
theorem HttpDate.Valid.within (valid : moment.Valid) :
    yearStart moment.date.year ≤ moment.unixSecond ∧
      moment.unixSecond < yearStart (moment.date.year + 1) := by
  -- The days lie within the year, and the time of day within its day.
  have day := valid.date.within
  have hour := valid.hour
  have minute := valid.minute
  have second := valid.second
  rw [yearStart_eq, yearStart_eq, daysBeforeYear_succ]
  simp only [HttpDate.unixSecond, Date.unixDay]
  omega

/-- Every second that a header gives lies in a year of four digits. -/
theorem httpDateSecond_within {header : String} {second : Int}
    (read : httpDateSecond header = .ok second) :
    yearStart (-9999) ≤ second ∧ second < yearStart 10000 := by
  -- The year is written with four digits, and the second lies in that year.
  obtain ⟨moment, ⟨valid, _, year, _, way, _⟩, rfl⟩ := httpDateSecond_eq_ok_iff.mp read
  obtain ⟨low, high⟩ := way.within
  obtain ⟨begun, ended⟩ := valid.within
  exact ⟨Int.le_trans (yearStart_le low) begun,
    Int.lt_of_lt_of_le ended (yearStart_le (Int.add_one_le_of_lt (Int.lt_add_one_of_le high)))⟩

/-- Every second falls on a moment of the calendar. -/
theorem HttpDate.ofUnixSecond_valid (second : Int) : (ofUnixSecond second).Valid := by
  -- The day is one of the calendar, and the rest is less than a day.
  have day := (Date.ofUnixDay_spec (second / 86400)).1
  constructor
  · simp only [ofUnixSecond]
    omega
  · exact day
  · simp only [ofUnixSecond]
    omega
  · simp only [ofUnixSecond]
    omega
  · simp only [ofUnixSecond]
    omega

/-- A second is the second of the moment it is. -/
theorem HttpDate.unixSecond_ofUnixSecond (second : Int) :
    (ofUnixSecond second).unixSecond = second := by
  have day := (Date.ofUnixDay_spec (second / 86400)).2
  simp only [unixSecond, ofUnixSecond, day]
  omega

/-- The text of a moment in a year of four digits says that moment. -/
theorem HttpDate.Valid.saidBy_text (valid : moment.Valid) (begun : 0 ≤ moment.date.year)
    (short : moment.date.year ≤ 9999) : moment.SaidBy moment.text := by
  refine ⟨valid, [], _, [], ?_, (List.append_nil _).symm, by simp, by simp⟩
  have way := YearText.plain moment.date.year.toNat (by omega)
  rwa [Int.toNat_of_nonneg begun] at way

/-- The year of a second is known from the years it lies between. -/
theorem HttpDate.year_ofUnixSecond {second first last : Int} (begun : yearStart first ≤ second)
    (ended : second < yearStart last) :
    first ≤ (ofUnixSecond second).date.year ∧ (ofUnixSecond second).date.year < last := by
  -- A year out of these bounds would start behind the second, or be over before it.
  have around := (ofUnixSecond_valid second).within
  rw [unixSecond_ofUnixSecond] at around
  constructor
  · refine Int.le_of_lt_add_one (Int.not_le.mp fun later => ?_)
    have early := yearStart_le later
    omega
  · refine Int.not_le.mp fun later => ?_
    have late := yearStart_le later
    omega

/--
A header is read just when it says a moment of the calendar, and it gives the second of the moment.

The name of the weekday has no part in that second. The day of a date is counted page by page: the
numbers of dates and the pages of the calendar belong together one to one. So every second of the
years zero to 9999 comes back from its own text.
-/
theorem header_dates_read_exactly :
    (∀ (header : String) (second : Int), httpDateSecond header = .ok second ↔
      ∃ moment : HttpDate, moment.SaidBy header.toList ∧
        second = moment.date.unixDay * 86400 + moment.hour * 3600 + moment.minute * 60 +
          moment.second) ∧
      (∀ (date : Date) (day : Int),
        date = Date.ofUnixDay day ↔ date.Valid ∧ date.unixDay = day) ∧
      ∀ second : Int, yearStart 0 ≤ second → second < yearStart 10000 →
        httpDateSecond (String.ofList (HttpDate.ofUnixSecond second).text) = .ok second := by
  -- The grammar, the calendar and the way back are settled one by one.
  refine ⟨fun header second => ?_, fun date day => ⟨?_, ?_⟩, fun second begun ended => ?_⟩
  · rw [httpDateSecond_eq_ok_iff]
    exact exists_congr fun moment => and_congr_right fun _ => eq_comm
  · rintro rfl
    exact Date.ofUnixDay_spec day
  · rintro ⟨valid, rfl⟩
    exact (Date.ofUnixDay_unixDay valid).symm
  · obtain ⟨first, last⟩ := HttpDate.year_ofUnixSecond begun ended
    have valid := HttpDate.ofUnixSecond_valid second
    have said := valid.saidBy_text first (Int.le_of_lt_add_one last)
    refine httpDateSecond_eq_ok_iff.mpr
      ⟨_, ?_, HttpDate.unixSecond_ofUnixSecond second⟩
    rwa [String.toList_ofList]

/-- A leap day is read behind a tab and under a weekday it did not fall on, and a second returns. -/
theorem leap_day_read_whatever_its_weekday :
    httpDateSecond "\tMon, 29 Feb 2000 12:34:56 GMT  " = .ok 951827696 ∧
      yearStart 0 ≤ -1 ∧ (-1 : Int) < yearStart 10000 ∧
      (HttpDate.ofUnixSecond (-1)).text = "Wed, 31 Dec 1969 23:59:59 GMT".toList ∧
      httpDateSecond (String.ofList (HttpDate.ofUnixSecond (-1)).text) = .ok (-1) := by
  -- The tab and the two blanks stand around the text, and Monday is one of the seven names.
  have valid : (HttpDate.mk 0 ⟨2000, 2, 29⟩ 12 34 56).Valid :=
    ⟨by decide, by decide, by decide, by decide, by decide⟩
  have said : (HttpDate.mk 0 ⟨2000, 2, 29⟩ 12 34 56).SaidBy
      "\tMon, 29 Feb 2000 12:34:56 GMT  ".toList :=
    ⟨valid, ['\t'], _, [' ', ' '], .plain 2000 (by decide), by decide,
      List.forall_mem_singleton.mpr rfl,
      List.forall_mem_cons.mpr ⟨rfl, List.forall_mem_singleton.mpr rfl⟩⟩
  have begun : yearStart 0 ≤ -1 := by decide
  have ended : (-1 : Int) < yearStart 10000 := by decide
  exact ⟨(header_dates_read_exactly.1 _ _).mpr ⟨_, said, by decide⟩, begun, ended, by decide,
    header_dates_read_exactly.2.2 (-1) begun ended⟩

end Seconds

end Scoreboard
