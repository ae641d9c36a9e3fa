import Scoreboard.Proofs.Json.Skipping

/-! Literals: a number is read from its own literal, and an integer from the one that it is written as. -/

namespace Scoreboard

/-- A literal without a point and an exponent, and not minus zero, stands for an integer. -/
inductive IntegerText : List Char → Int → Prop
  | plain {whole : List Char} (part : WholePart whole) : IntegerText whole (digitsValue whole)
  | minus {whole : List Char} (part : WholePart whole) (nonzero : digitsValue whole ≠ 0) :
    IntegerText ('-' :: whole) (-(digitsValue whole))

section Parts

variable {text whole rest behind : List Char}

/-- A row of digits without a zero too many in front is what its number is written with. -/
theorem WholePart.natDigits_digitsValue (first : WholePart whole) :
    natDigits (digitsValue whole) = whole := by
  cases first with
  | zero => decide
  | @row c digits digit other row =>
    have all : ∀ d ∈ c :: digits, d.isDigit = true := List.forall_mem_cons.mpr ⟨digit, row⟩
    -- There is no zero in front that a width would have to ask for.
    rw [← padZeros_zero (natDigits _)]
    exact padZeros_digitsValue_of_head? (List.cons_ne_nil c digits) all (Nat.zero_le _)
      fun _ zero => other (Option.some.inj zero)

/-- A number is written as digits in front of a point are. -/
theorem wholePart_natDigits (value : Nat) : WholePart (natDigits value) := by
  -- No number but zero is written with a zero in front.
  rcases Nat.eq_zero_or_pos value with rfl | positive
  · exact .zero
  · cases written : natDigits value with
    | nil => exact absurd written (natDigits_ne_nil value)
    | cons c digits =>
      have all : ∀ d ∈ c :: digits, d.isDigit = true := fun d member =>
        isDigit_of_mem_natDigits (written ▸ member)
      obtain ⟨digit, row⟩ := List.forall_mem_cons.mp all
      refine .row digit ?_ row
      rintro rfl
      exact head?_natDigits positive (by rw [written]; rfl)

/-- An integer is written as a number literal. -/
theorem numberText_intDigits (value : Int) : NumberText (intDigits value) := by
  -- The sign and the digits are all there is: no fraction, and no exponent.
  have parts : ∀ sign (value : Nat), sign = [] ∨ sign = ['-'] →
      NumberText (sign ++ natDigits value) := by
    intro sign value signed
    have literal := NumberText.parts signed (wholePart_natDigits value) .absent .absent
    rwa [List.append_nil, List.append_nil] at literal
  cases value with
  | ofNat value => exact parts [] value (.inl rfl)
  | negSucc value => exact parts ['-'] (value + 1) (.inr rfl)

/-- Every integer has one such literal, the one that it is written as. -/
theorem integerText_iff {value : Int} : IntegerText text value ↔ text = intDigits value := by
  -- With a sign or without one, the digits are those of the number that they spell.
  constructor
  · rintro (⟨part⟩ | ⟨part, nonzero⟩)
    · exact part.natDigits_digitsValue.symm
    · -- The number behind the sign is some number and one more.
      obtain ⟨less, digits⟩ := Nat.exists_eq_succ_of_ne_zero nonzero
      have written := part.natDigits_digitsValue
      rw [digits] at written ⊢
      exact congrArg ('-' :: ·) written.symm
  · rintro rfl
    cases value with
    | ofNat value =>
      have literal := IntegerText.plain (wholePart_natDigits value)
      rwa [digitsValue_natDigits] at literal
    | negSucc value =>
      have literal := IntegerText.minus (wholePart_natDigits (value + 1))
      rw [digitsValue_natDigits] at literal
      exact literal (Nat.succ_ne_zero value)

/-- The digits in front of a point that are read are a whole part. -/
theorem wholePart_of_readWhole (read : readWhole text = .ok (whole, behind)) :
    WholePart whole ∧ text = whole ++ behind ∧ Undigited behind := by
  obtain ⟨row, plain⟩ := readWhole_eq_ok_iff.mp read
  obtain ⟨some, all, same, undigited⟩ := readDigits_eq_ok_iff.mp row
  refine ⟨?_, same, undigited⟩
  cases whole with
  | nil => exact absurd rfl some
  | cons c digits =>
    obtain ⟨digit, others⟩ := List.forall_mem_cons.mp all
    -- A zero that comes first has to be the only digit.
    by_cases zero : c = '0'
    · subst zero
      cases digits with
      | nil => exact .zero
      | cons d digits => exact absurd rfl (plain d digits)
    · exact .row digit zero others

/-- A text that is the digits of an integer is a value. -/
theorem valueText_literal {text : String} (value : Int) (same : text.toList = intDigits value) :
    ValueText text.toList :=
  same ▸ .number (numberText_intDigits value)

end Parts

section Numerals

variable {text rest behind : List Char}

/-- A row of digits is read up to its end. -/
theorem readDigits_row {digits : List Char} (row : IsRow digits) (undigited : Undigited rest) :
    readDigits (digits ++ rest) = .ok (digits, rest) :=
  readDigits_eq_ok_iff.mpr ⟨row.1, row.2, rfl, undigited⟩

/-- The digits in front of the point are read up to their end. -/
theorem readWhole_part {whole : List Char} (part : WholePart whole) (undigited : Undigited rest) :
    readWhole (whole ++ rest) = .ok (whole, rest) := by
  -- A zero stands alone, and any other row starts with another digit.
  cases part with
  | zero =>
    have row : IsRow ['0'] := ⟨List.cons_ne_nil _ _, List.all_eq_true.mp rfl⟩
    exact readWhole_eq_ok_iff.mpr ⟨readDigits_row row undigited, nofun⟩
  | row digit other row =>
    have row : IsRow (_ :: _) := ⟨List.cons_ne_nil _ _, List.forall_mem_cons.mpr ⟨digit, row⟩⟩
    refine readWhole_eq_ok_iff.mpr ⟨readDigits_row row undigited, ?_⟩
    rintro c digits ⟨⟩
    exact other rfl

/-- What is read of an exponent is the same whatever stops the number behind it. -/
theorem readExponent_part {exponent : List Char} (part : ExponentPart exponent) :
    ∃ power, ∀ {rest}, Stops rest → readExponent (exponent ++ rest) = .ok (power, rest) := by
  cases part with
  | absent => exact ⟨none, fun stops => stops.readExponent⟩
  | @mark c sign digits mark signed row =>
    have digitsRead : ∀ {rest}, Stops rest → readDigits (digits ++ rest) = .ok (digits, rest) :=
      fun stops => readDigits_row row stops.undigited
    -- Digits open with no sign, so that without one the sign that is taken is none.
    have unsigned : ∀ rest, takeSign (digits ++ rest) = (false, digits ++ rest) := by
      intro rest
      obtain ⟨some, all⟩ := row
      cases digits with
      | nil => exact absurd rfl some
      | cons d digits =>
        have digit := all d List.mem_cons_self
        unfold takeSign
        split
        · rename_i same
          cases same
          cases digit
        · rename_i same
          cases same
          cases digit
        · rfl
    -- Behind the mark, the digits are read as a power, with or without a sign.
    have marked : ∀ {text power rest}, readPower text = .ok (power, rest) →
        readExponent (c :: text) = .ok (some power, rest) := by
      intro text power rest read
      rw [readsBehind_exponent.marked text mark, read]
      rfl
    rcases signed with rfl | rfl | rfl
    · refine ⟨some (digitsValue digits), fun {rest} stops => marked ?_⟩
      show readPower (digits ++ rest) = _
      rw [readPower, unsigned, digitsRead stops]
      rfl
    · refine ⟨some (digitsValue digits), fun {rest} stops => marked ?_⟩
      show readPower ('+' :: (digits ++ rest)) = _
      simp only [readPower, takeSign, digitsRead stops]
      rfl
    · refine ⟨some (-(digitsValue digits : Int)), fun {rest} stops => marked ?_⟩
      show readPower ('-' :: (digits ++ rest)) = _
      simp only [readPower, takeSign, digitsRead stops]
      rfl

/-- No digit and no point stand in front of an exponent or where a number stops. -/
theorem head_exponent {exponent : List Char} (part : ExponentPart exponent) (stops : Stops rest) :
    ∀ c ∈ (exponent ++ rest).head?, c.isDigit = false ∧ c ≠ '.' := by
  -- An exponent starts with its mark, and without one the number stops.
  cases part with
  | absent => exact fun c first => ⟨(stops c first).1, (stops c first).2.1⟩
  | mark mark =>
    rintro c ⟨⟩
    rcases mark with rfl | rfl <;> decide

/-- A fraction is read up to its end, with or without an exponent behind it. -/
theorem readFraction_part {fraction exponent : List Char} (part : FractionPart fraction)
    (third : ExponentPart exponent) : ∃ digits, ∀ {rest}, Stops rest →
      Undigited (fraction ++ (exponent ++ rest)) ∧
      readFraction (fraction ++ (exponent ++ rest)) = .ok (digits, exponent ++ rest) := by
  -- A fraction that is absent is read from any text without a point in front.
  cases part with
  | absent =>
    refine ⟨none, fun stops => ?_⟩
    have head := head_exponent third stops
    exact ⟨fun c first => (head c first).1, readsBehind_fraction.absent fun c first => (head c first).2⟩
  | @point digits row =>
    refine ⟨some digits, fun {rest} stops => ⟨?_, ?_⟩⟩
    · rintro c ⟨⟩
      rfl
    · have undigited : Undigited (exponent ++ rest) :=
        fun c first => (head_exponent third stops c first).1
      rw [List.cons_append, readsBehind_fraction.marked _ rfl, readDigits_row row undigited]
      rfl

/-- A number literal is read as the same literal, or refused, whatever stops the number behind it. -/
theorem NumberText.readNumeral_eq (number : NumberText text) : ∃ literal : Numeral, ∀ {rest},
    Stops rest → readNumeral (text ++ rest) =
      if literal.integer?.isNone && !literal.toFloat.isFinite then .error .malformed
      else .ok (literal, rest) := by
  obtain ⟨signed, first, second, third⟩ := number
  rename_i sign whole fraction exponent
  obtain ⟨digits, fractionRead⟩ := readFraction_part second third
  obtain ⟨power, exponentRead⟩ := readExponent_part third
  -- The parts are read one behind the other, each up to where the next one opens.
  have unsigned : ∀ negative {rest}, Stops rest →
      readUnsigned negative (whole ++ (fraction ++ (exponent ++ rest))) =
        if (Numeral.ofParts negative whole digits power).integer?.isNone &&
          !(Numeral.ofParts negative whole digits power).toFloat.isFinite then .error .malformed
        else .ok (Numeral.ofParts negative whole digits power, rest) := by
    intro negative rest stops
    obtain ⟨undigited, fractionRead⟩ := fractionRead stops
    rw [readUnsigned, readWhole_part first undigited]
    simp only [bind, Except.bind, fractionRead, exponentRead stops]
  simp only [List.append_assoc]
  rcases signed with rfl | rfl
  · refine ⟨Numeral.ofParts false whole digits power, fun {rest} stops => ?_⟩
    obtain ⟨c, others, rfl, digit⟩ := first.head
    refine (readNumeral_plain _ ?_).trans (unsigned false stops)
    rintro ⟨⟩
    cases digit
  · exact ⟨Numeral.ofParts true whole digits power, fun stops => unsigned true stops⟩

/-- A sign that is taken stood in front, and there is one of two signs or none. -/
theorem takeSign_split (text : List Char) : ∃ sign, (sign = [] ∨ sign = ['+'] ∨ sign = ['-']) ∧
    text = sign ++ (takeSign text).2 := by
  -- The three branches are the two signs and none.
  unfold takeSign
  split
  · exact ⟨['-'], .inr (.inr rfl), rfl⟩
  · exact ⟨['+'], .inr (.inl rfl), rfl⟩
  · exact ⟨[], .inl rfl, rfl⟩

/-- What is read as a fraction is one, or there is none. -/
theorem fractionPart_of_readFraction {digits : Option (List Char)}
    (read : readFraction text = .ok (digits, behind)) :
    ∃ fraction, FractionPart fraction ∧ text = fraction ++ behind := by
  -- Either nothing is read in front of no point, or digits are read behind one.
  rcases readsBehind_fraction.cases_of_ok read with
    ⟨_, rfl, _⟩ | ⟨c, rest, digits, rfl, rfl, _, row⟩
  · exact ⟨[], .absent, rfl⟩
  · -- The point and the digits behind it make the fraction.
    obtain ⟨some, all, rfl, _⟩ := readDigits_eq_ok_iff.mp row
    exact ⟨'.' :: digits, .point ⟨some, all⟩, rfl⟩

/-- What is read as an exponent is one, or there is none. -/
theorem exponentPart_of_readExponent {power : Option Int}
    (read : readExponent text = .ok (power, behind)) :
    ∃ exponent, ExponentPart exponent ∧ text = exponent ++ behind := by
  -- Either nothing is read in front of no mark, or a power is read behind one.
  rcases readsBehind_exponent.cases_of_ok read with
    ⟨_, rfl, _⟩ | ⟨c, rest, power, rfl, mark, _, signed⟩
  · exact ⟨[], .absent, rfl⟩
  · -- The mark, the sign and the digits behind both make the exponent.
    obtain ⟨⟨row, last⟩, inside, same⟩ := map_eq_ok_iff.mp signed
    cases same
    obtain ⟨some, all, digits, _⟩ := readDigits_eq_ok_iff.mp inside
    obtain ⟨sign, signed, split⟩ := takeSign_split rest
    refine ⟨c :: (sign ++ row), .mark mark signed ⟨some, all⟩, ?_⟩
    rw [split, digits, List.cons_append, List.append_assoc]

/-- What is read as a number literal is one, with something behind it or nothing. -/
theorem numberText_of_readNumeral {literal : Numeral}
    (read : readNumeral text = .ok (literal, behind)) :
    ∃ number, NumberText number ∧ text = number ++ behind := by
  have unsigned : ∀ negative body sign, sign = [] ∨ sign = ['-'] →
      readUnsigned negative body = .ok (literal, behind) →
      ∃ number, NumberText number ∧ sign ++ body = number ++ behind := by
    intro negative body sign signed read
    obtain ⟨whole, _, _, _, _, first, second, third, _⟩ := readUnsigned_eq_ok_iff.mp read
    obtain ⟨part, rfl, _⟩ := wholePart_of_readWhole first
    obtain ⟨fraction, partToo, rfl⟩ := fractionPart_of_readFraction second
    obtain ⟨exponent, lastPart, rfl⟩ := exponentPart_of_readExponent third
    exact ⟨_, .parts signed part partToo lastPart, by simp only [List.append_assoc]⟩
  -- The sign is read first, and everything else behind it.
  cases text with
  | nil => cases read
  | cons c text =>
    by_cases minus : c = '-'
    · subst minus
      exact unsigned true text ['-'] (.inr rfl) (readNumeral_minus text ▸ read)
    · have plain : (c :: text).head? ≠ some '-' := by simpa using minus
      exact unsigned false (c :: text) [] (.inl rfl) (readNumeral_plain _ plain ▸ read)

/-- What is read as a number literal opens like one. -/
theorem opens_of_readNumeral {c : Char} {literal : Numeral}
    (read : readNumeral (c :: text) = .ok (literal, behind)) : c = '-' ∨ c.isDigit = true := by
  -- What is read is a number literal of the grammar, which opens so.
  obtain ⟨number, written, same⟩ := numberText_of_readNumeral read
  obtain ⟨d, others, rfl, opens⟩ := written.head
  cases same
  exact opens

/-- A number literal is read from its own text, whatever stops the number behind it. -/
theorem NumberText.readNumeral_iff (number : NumberText text) (stops : Stops rest)
    {literal : Numeral} : readNumeral (text ++ rest) = .ok (literal, behind) ↔
      behind = rest ∧ readNumeral text = .ok (literal, []) := by
  -- With and without a rest, the literal is read from the same parts.
  obtain ⟨own, read⟩ := number.readNumeral_eq
  have nothing : Stops [] := nofun
  have alone := read nothing
  rw [List.append_nil] at alone
  rw [read stops, alone]
  split
  · exact iff_of_false nofun fun both => nomatch both.2
  · constructor
    · rintro ⟨⟩
      exact ⟨rfl, rfl⟩
    · rintro ⟨rfl, same⟩
      cases same
      rfl

end Numerals

section Integers

variable {text rest behind : List Char} {low high value : Int} {c : Char}

/-- A literal stands for an integer only if it is written with the digits of that. -/
theorem intDigits_of_integer? {negative : Bool} {whole : List Char} {digits : Option (List Char)}
    {power : Option Int} (first : WholePart whole)
    (integer : (Numeral.ofParts negative whole digits power).integer? = some value) :
    digits = none ∧ power = none ∧
      (if negative then ['-'] else []) ++ whole = intDigits value := by
  unfold Numeral.integer? at integer
  split at integer
  · cases integer
  · rename_i plain
    obtain ⟨rfl, rfl⟩ : digits = none ∧ power = none := by
      simpa [Numeral.ofParts] using plain
    -- Without a fraction, the digits of the literal are those in front of the point.
    have spelled : (Numeral.ofParts negative whole none none).digits = digitsValue whole := by
      simp [Numeral.ofParts]
    rw [spelled] at integer
    refine ⟨rfl, rfl, ?_⟩
    cases negative with
    | true =>
      split at integer
      · split at integer
        · cases integer
        · -- There is no negative zero among the integers.
          rename_i inside
          cases integer
          exact integerText_iff.mp (.minus first fun zero => inside (.inl zero))
      · rename_i minus
        exact absurd rfl minus
    | false =>
      split at integer
      · rename_i minus
        cases minus
      · split at integer
        · cases integer
        · cases integer
          exact integerText_iff.mp (.plain first)

/-- An integer that is read has been written there, in front of what does not carry it on. -/
theorem of_readWithin (opens : c = '-' ∨ c.isDigit = true)
    (read : readWithin low high (c :: text) = .ok (value, behind)) :
    c :: text = intDigits value ++ behind ∧ Stops behind ∧ low ≤ value ∧ value ≤ high := by
  obtain ⟨⟨literal, end'⟩, inner, judged⟩ := bind_eq_ok_iff.mp read
  -- The literal stands for an integer that lies within the bounds.
  obtain ⟨integer, rfl, within⟩ : literal.integer? = some value ∧ end' = behind ∧
      low ≤ value ∧ value ≤ high := by
    dsimp only at judged
    split at judged
    · cases judged
    · rename_i found integer
      split at judged
      · rename_i within
        cases judged
        exact ⟨integer, rfl, within⟩
      · cases judged
  rw [readNumber_cons opens] at inner
  have unsigned : ∀ negative body, readUnsigned negative body = .ok (literal, end') →
      (if negative then ['-'] else []) ++ body = intDigits value ++ end' ∧ Stops end' := by
    intro negative body read
    obtain ⟨whole, _, fraction, _, power, first, second, third, rfl, _⟩ :=
      readUnsigned_eq_ok_iff.mp read
    obtain ⟨part, rfl, undigited⟩ := wholePart_of_readWhole first
    obtain ⟨rfl, rfl, written⟩ := intDigits_of_integer? part integer
    -- There is neither a fraction nor an exponent, so that the literal ends with its digits.
    obtain ⟨rfl, noPoint⟩ := readsBehind_fraction.of_none second
    obtain ⟨rfl, noMark⟩ := readsBehind_exponent.of_none third
    rw [← List.append_assoc, written]
    exact ⟨rfl, fun c first => ⟨undigited c first, noPoint c first, not_or.mp (noMark c first)⟩⟩
  -- The sign is read first, and everything else behind it.
  by_cases minus : c = '-'
  · subst minus
    obtain ⟨same, stops⟩ := unsigned true text (readNumeral_minus text ▸ inner)
    exact ⟨same, stops, within⟩
  · have plain : (c :: text).head? ≠ some '-' := by simpa using minus
    obtain ⟨same, stops⟩ := unsigned false (c :: text) (readNumeral_plain _ plain ▸ inner)
    exact ⟨same, stops, within⟩

/-- An integer within bounds is read from its own text, and from no other number literal. -/
theorem NumberText.readWithin_iff (number : NumberText text) (stops : Stops rest)
    (low64 : -0x8000000000000000 ≤ low) (high64 : high ≤ 0xFFFFFFFFFFFFFFFF) :
    readWithin low high (text ++ rest) = .ok (value, behind) ↔
      behind = rest ∧ text = intDigits value ∧ low ≤ value ∧ value ≤ high := by
  constructor
  · intro read
    have same : text ++ rest = intDigits value ++ behind ∧ Stops behind ∧ low ≤ value ∧
        value ≤ high := by
      obtain ⟨c, others, rfl, opens⟩ := number.head
      exact of_readWithin opens read
    obtain ⟨same, stopsToo, within⟩ := same
    -- Two literals stand at the start of one text, and neither is carried on, so they are the same.
    obtain ⟨rfl, rfl⟩ := number.unique stops (numberText_intDigits value) stopsToo same
    exact ⟨rfl, rfl, within⟩
  · rintro ⟨rfl, rfl, above, below⟩
    exact readWithin_intDigits stops above below low64 high64

end Integers

end Scoreboard
