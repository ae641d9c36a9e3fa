import Scoreboard.Json.Codec
import Scoreboard.Proofs.Results
import Scoreboard.Proofs.Text.Digits

/-! Numbers: what is written as digits is read back, whatever part of a document follows it. -/

namespace Scoreboard

/-- A text that may follow a value: nothing, or what ends or continues a list or an object. -/
inductive Follows : List Char → Prop
  | nothing : Follows []
  | comma (text : List Char) : Follows (',' :: text)
  | bracket (text : List Char) : Follows (']' :: text)
  | brace (text : List Char) : Follows ('}' :: text)

/-- No digit stands at the start of a text. -/
def Undigited (text : List Char) : Prop :=
  ∀ c ∈ text.head?, c.isDigit = false

/-- A text that does not carry a number literal on. -/
def Stops (text : List Char) : Prop :=
  ∀ c ∈ text.head?, c.isDigit = false ∧ c ≠ '.' ∧ c ≠ 'e' ∧ c ≠ 'E'

/-- No number goes on right behind a value. -/
theorem Follows.stops {rest : List Char} (follows : Follows rest) : Stops rest := by
  unfold Stops
  cases follows <;> simp

/-- Where a number stops there is no digit. -/
theorem Stops.undigited {rest : List Char} (stops : Stops rest) : Undigited rest :=
  fun c first => (stops c first).1

/-- No digit stands right behind a value. -/
theorem Follows.undigited {rest : List Char} (follows : Follows rest) : Undigited rest :=
  follows.stops.undigited

/-- What may follow a value brings no digit to a text without one in front. -/
theorem Undigited.append {text rest : List Char} (undigited : Undigited text)
    (follows : Follows rest) : Undigited (text ++ rest) := by
  cases text with
  | nil => exact follows.undigited
  | cons c text => exact undigited

section Reading

variable {text rest behind : List Char}

/-- A row of digits that is read is all of the digits at the start of the text. -/
theorem readDigits_eq_ok_iff {digits : List Char} : readDigits text = .ok (digits, behind) ↔
    digits ≠ [] ∧ (∀ c ∈ digits, c.isDigit = true) ∧ text = digits ++ behind ∧
      Undigited behind := by
  constructor
  · intro read
    -- What is read is the longest row of digits, and no digit stands behind it.
    have parts : text.takeWhile Char.isDigit = digits ∧ text.dropWhile Char.isDigit = behind ∧
        digits ≠ [] := by
      unfold readDigits at read
      cases row : text.takeWhile Char.isDigit with
      | nil =>
        rw [row] at read
        cases text <;> cases read
      | cons c taken =>
        rw [row] at read
        cases read
        exact ⟨rfl, rfl, List.cons_ne_nil _ _⟩
    obtain ⟨rfl, rfl, some⟩ := parts
    refine ⟨some, List.all_eq_true.mp List.all_takeWhile, List.takeWhile_append_dropWhile.symm, ?_⟩
    intro c first
    have stops := List.head?_dropWhile_not Char.isDigit text
    rw [Option.mem_def.mp first] at stops
    exact stops
  · rintro ⟨some, row, rfl, undigited⟩
    have taken : (digits ++ behind).takeWhile Char.isDigit = digits := by
      rw [List.takeWhile_append_of_pos row]
      cases behind with
      | nil => simp
      | cons c behind => simp [undigited c rfl]
    have dropped : (digits ++ behind).dropWhile Char.isDigit = behind := by
      rw [List.dropWhile_append_of_pos row]
      cases behind with
      | nil => rfl
      | cons c behind => simp [undigited c rfl]
    unfold readDigits
    rw [taken, dropped]
    cases digits with
    | nil => exact absurd rfl some
    | cons c digits => rfl

/-- The digits in front of the point are a row of digits without a zero too many in front. -/
theorem readWhole_eq_ok_iff {whole : List Char} : readWhole text = .ok (whole, behind) ↔
    readDigits text = .ok (whole, behind) ∧ ∀ c digits, whole ≠ '0' :: c :: digits := by
  -- The one row that is refused starts with a zero and goes on.
  unfold readWhole
  constructor
  · intro read
    split at read
    · cases read
    · rename_i plain
      exact ⟨read, fun c digits zero => plain c digits behind (zero ▸ read)⟩
  · rintro ⟨read, plain⟩
    split
    · rename_i c digits other zero
      cases read.symm.trans zero
      exact absurd rfl (plain c digits)
    · exact read

/-- Digits are read alike in front of anything that may follow. -/
theorem readDigits_append (follows : Follows rest) {digits : List Char}
    (read : readDigits text = .ok (digits, behind)) :
    readDigits (text ++ rest) = .ok (digits, behind ++ rest) := by
  obtain ⟨some, row, rfl, undigited⟩ := readDigits_eq_ok_iff.mp read
  exact readDigits_eq_ok_iff.mpr
    ⟨some, row, List.append_assoc digits behind rest, undigited.append follows⟩

/-- The digits in front of a point are read alike in front of anything that may follow. -/
theorem readWhole_append (follows : Follows rest) {whole : List Char}
    (read : readWhole text = .ok (whole, behind)) :
    readWhole (text ++ rest) = .ok (whole, behind ++ rest) := by
  obtain ⟨row, plain⟩ := readWhole_eq_ok_iff.mp read
  exact readWhole_eq_ok_iff.mpr ⟨readDigits_append follows row, plain⟩

/--
A reader of a part that may be missing.

The part stands behind a mark, where another reader reads it; without the mark nothing is read.
-/
structure ReadsBehind {β : Type} (read : List Char → Except DecodeError ((Option β) × List Char))
    (mark : Char → Prop) (inner : List Char → Except DecodeError (β × List Char)) : Prop where
  absent : ∀ {text}, (∀ c ∈ text.head?, ¬ mark c) → read text = .ok (none, text)
  marked : ∀ {c} text, mark c →
    read (c :: text) = (inner text).map fun (part, rest) => (some part, rest)

namespace ReadsBehind

variable {β : Type} {read : List Char → Except DecodeError ((Option β) × List Char)}
  {mark : Char → Prop} {inner : List Char → Except DecodeError (β × List Char)} {value : Option β}

/-- What is read is nothing, in front of no mark, or the part behind a mark. -/
theorem cases_of_ok (reads : ReadsBehind read mark inner) (done : read text = .ok (value, behind)) :
    (value = none ∧ behind = text ∧ ∀ c ∈ text.head?, ¬ mark c) ∨
      ∃ c rest part, text = c :: rest ∧ mark c ∧ value = some part ∧
        inner rest = .ok (part, behind) := by
  -- The first character is a mark, or it is not, or there is none.
  by_cases missing : ∀ c ∈ text.head?, ¬ mark c
  · cases (reads.absent missing).symm.trans done
    exact .inl ⟨rfl, rfl, missing⟩
  · -- There is a first character, and it is a mark.
    simp only [not_forall, not_not] at missing
    obtain ⟨c, first, marks⟩ := missing
    obtain ⟨rest, rfl⟩ := List.head?_eq_some_iff.mp first
    rw [reads.marked rest marks] at done
    obtain ⟨⟨part, last⟩, row, same⟩ := map_eq_ok_iff.mp done
    cases same
    exact .inr ⟨c, rest, part, rfl, marks, rfl, row⟩

/-- Where no part is read there is no mark, and nothing is taken. -/
theorem of_none (reads : ReadsBehind read mark inner) (done : read text = .ok (none, behind)) :
    behind = text ∧ ∀ c ∈ text.head?, ¬ mark c := by
  rcases reads.cases_of_ok done with ⟨_, same, missing⟩ | ⟨_, _, _, _, _, some, _⟩
  · exact ⟨same, missing⟩
  · cases some

/-- What stands behind a part is an end of the text, if that holds of what stands behind a mark. -/
theorem suffix (reads : ReadsBehind read mark inner)
    (ends : ∀ {rest part}, inner rest = .ok (part, behind) → behind <:+ rest)
    (done : read text = .ok (value, behind)) : behind <:+ text := by
  rcases reads.cases_of_ok done with ⟨_, rfl, _⟩ | ⟨c, rest, part, rfl, _, _, row⟩
  · exact List.suffix_refl _
  · exact (ends row).trans (List.suffix_cons c rest)

/-- A part is read alike in front of a text without a mark, if that holds of what follows a mark. -/
theorem append (reads : ReadsBehind read mark inner) (unmarked : ∀ c ∈ rest.head?, ¬ mark c)
    (further : ∀ {text part}, inner text = .ok (part, behind) →
      inner (text ++ rest) = .ok (part, behind ++ rest))
    (done : read text = .ok (value, behind)) :
    read (text ++ rest) = .ok (value, behind ++ rest) := by
  rcases reads.cases_of_ok done with ⟨rfl, rfl, missing⟩ | ⟨c, inside, part, rfl, marks, rfl, row⟩
  · refine reads.absent fun c first => ?_
    -- The first character is that of the text, or where that is empty the one that follows.
    cases behind with
    | nil => exact unmarked c first
    | cons d behind => exact missing c first
  · rw [List.cons_append, reads.marked _ marks, further row]
    rfl

end ReadsBehind

/-- Behind a point comes a row of digits, and anything else is left alone. -/
theorem readsBehind_fraction : ReadsBehind readFraction (· = '.') readDigits where
  -- Only the point matches the first branch.
  absent missing := by
    unfold readFraction
    split
    · exact absurd rfl (missing '.' rfl)
    · rfl
  marked text point := by
    subst point
    rfl

/-- What stops a number opens no fraction. -/
theorem Stops.readFraction (stops : Stops rest) : readFraction rest = .ok (none, rest) :=
  readsBehind_fraction.absent fun c first => (stops c first).2.1

/-- A fraction is read alike in front of anything that may follow a value. -/
theorem readFraction_append (follows : Follows rest) {fraction : Option (List Char)}
    (read : readFraction text = .ok (fraction, behind)) :
    readFraction (text ++ rest) = .ok (fraction, behind ++ rest) :=
  readsBehind_fraction.append (fun c first => (follows.stops c first).2.1)
    (fun row => readDigits_append follows row) read

/-- Whether a sign that a text starts with is a minus, and the text behind it. -/
def takeSign (text : List Char) : Bool × List Char :=
  match text with
  | '-' :: rest => (true, rest)
  | '+' :: rest => (false, rest)
  | _ => (false, text)

/-- A sign is taken alike from a longer text. -/
theorem takeSign_append {c : Char} : takeSign (c :: text ++ rest) =
    ((takeSign (c :: text)).1, (takeSign (c :: text)).2 ++ rest) := by
  -- The first character is one of the two signs, or neither.
  unfold takeSign
  split
  · rename_i same
    cases same
    rfl
  · rename_i same
    cases same
    rfl
  · rename_i minus plus
    split
    · rename_i same
      cases same
      exact absurd rfl (minus _)
    · rename_i same
      cases same
      exact absurd rfl (plus _)
    · rfl

/-- The power that a row of digits stands for, behind a sign if there is one. -/
def readPower (text : List Char) : Except DecodeError (Int × List Char) :=
  (readDigits (takeSign text).2).map fun (digits, rest) =>
    (if (takeSign text).1 then -(digitsValue digits : Int) else digitsValue digits, rest)

/-- Behind an exponent mark comes a power, and anything else is left alone. -/
theorem readsBehind_exponent :
    ReadsBehind readExponent (fun c => c = 'e' ∨ c = 'E') readPower where
  absent := by
    intro text missing
    cases text with
    | nil => rfl
    | cons c text => exact if_neg (missing c rfl)
  marked := by
    intro c text mark
    -- The sign is looked for in the same way in both readers.
    have signed : readExponent (c :: text) = (readDigits (takeSign text).2).map fun (digits, rest) =>
        (some (if (takeSign text).1 then -(digitsValue digits : Int) else digitsValue digits),
          rest) := by
      simp only [readExponent, if_pos mark]
      exact congrArg (fun sign : Bool × List Char => (readDigits sign.2).map fun digits =>
        (some (if sign.1 then -(digitsValue digits.1 : Int) else digitsValue digits.1), digits.2))
        (rfl : _ = takeSign text)
    rw [signed, readPower]
    cases readDigits (takeSign text).2 <;> rfl

/-- What stops a number opens no exponent. -/
theorem Stops.readExponent (stops : Stops rest) : readExponent rest = .ok (none, rest) :=
  readsBehind_exponent.absent fun c first => not_or.mpr (stops c first).2.2

/-- A power is read alike in front of anything that may follow a value. -/
theorem readPower_append (follows : Follows rest) {power : Int}
    (read : readPower text = .ok (power, behind)) :
    readPower (text ++ rest) = .ok (power, behind ++ rest) := by
  obtain ⟨⟨digits, last⟩, row, same⟩ := map_eq_ok_iff.mp read
  cases same
  -- There is a digit at least, so that the sign is not the first character of what follows.
  cases text with
  | nil => cases row
  | cons c text =>
    rw [readPower, takeSign_append, readDigits_append follows row]
    rfl

/-- An exponent is read alike in front of anything that may follow a value. -/
theorem readExponent_append (follows : Follows rest) {power : Option Int}
    (read : readExponent text = .ok (power, behind)) :
    readExponent (text ++ rest) = .ok (power, behind ++ rest) :=
  readsBehind_exponent.append (fun c first => not_or.mpr (follows.stops c first).2.2)
    (fun row => readPower_append follows row) read

/-- The number literal behind a sign. -/
def readUnsigned (negative : Bool) (text : List Char) :
    Except DecodeError (Numeral × List Char) := do
  let (whole, text) ← readWhole text
  let (fraction, text) ← readFraction text
  let (power, text) ← readExponent text
  let number := Numeral.ofParts negative whole fraction power
  if number.integer?.isNone && !number.toFloat.isFinite then .error .malformed
  else .ok (number, text)

/-- Behind a minus sign stands a number literal without a sign. -/
theorem readNumeral_minus (text : List Char) :
    readNumeral ('-' :: text) = readUnsigned true text :=
  rfl

/-- Without a minus sign a number literal has no sign. -/
theorem readNumeral_plain (text : List Char) (plain : text.head? ≠ some '-') :
    readNumeral text = readUnsigned false text := by
  -- Only a minus sign matches the first branch.
  unfold readNumeral
  split
  rename_i negative body parts
  split at parts
  · exact absurd rfl plain
  · cases parts
    rfl

/-- What is left behind digits is the end of their text. -/
theorem suffix_of_readDigits {digits : List Char} (read : readDigits text = .ok (digits, behind)) :
    behind <:+ text := by
  obtain ⟨_, _, whole, _⟩ := readDigits_eq_ok_iff.mp read
  exact ⟨digits, whole.symm⟩

/-- What is left behind a sign is the end of its text. -/
theorem takeSign_suffix (text : List Char) : (takeSign text).2 <:+ text := by
  -- Either one character goes, or none.
  unfold takeSign
  split
  · exact List.suffix_cons _ _
  · exact List.suffix_cons _ _
  · exact List.suffix_refl _

/-- What stands behind a power is an end of the text. -/
theorem suffix_of_readPower {power : Int} (read : readPower text = .ok (power, behind)) :
    behind <:+ text := by
  obtain ⟨⟨digits, last⟩, row, same⟩ := map_eq_ok_iff.mp read
  cases same
  exact (suffix_of_readDigits row).trans (takeSign_suffix text)

/-- A number literal is the unsigned one behind its sign, whatever follows it. -/
theorem readNumeral_unsigned (c : Char) (text : List Char) : ∃ negative body,
    body <:+ c :: text ∧
      ∀ rest, readNumeral (c :: text ++ rest) = readUnsigned negative (body ++ rest) := by
  -- The first character is a minus sign, or it is not.
  by_cases minus : c = '-'
  · subst minus
    exact ⟨true, text, List.suffix_cons _ _, fun rest => readNumeral_minus _⟩
  · exact ⟨false, c :: text, List.suffix_refl _,
      fun rest => readNumeral_plain _ (by simpa using minus)⟩

/-- A literal stands for an integer, or for a double that is not beyond the largest one. -/
def Numeral.Sound (number : Numeral) : Prop :=
  number.integer?.isSome = true ∨ number.toFloat.isFinite = true

/-- A number literal is a whole part, a fraction and an exponent, and it is a sound one. -/
theorem readUnsigned_eq_ok_iff {negative : Bool} {number : Numeral} :
    readUnsigned negative text = .ok (number, behind) ↔
      ∃ whole afterWhole fraction afterFraction power, readWhole text = .ok (whole, afterWhole) ∧
        readFraction afterWhole = .ok (fraction, afterFraction) ∧
        readExponent afterFraction = .ok (power, behind) ∧
        Numeral.ofParts negative whole fraction power = number ∧ number.Sound := by
  have judged : ∀ (literal : Numeral) (rest : List Char),
      (if literal.integer?.isNone && !literal.toFloat.isFinite then
        Except.error DecodeError.malformed else .ok (literal, rest)) = .ok (number, behind) ↔
      rest = behind ∧ literal = number ∧ number.Sound := by
    intro literal rest
    cases whole : literal.integer?.isSome <;> cases finite : literal.toFloat.isFinite <;>
      simp_all [Numeral.Sound] <;> grind
  -- The parts are read one behind the other, and the literal is judged at the end.
  simp only [readUnsigned, bind_eq_ok_iff, Prod.exists, judged]
  constructor
  · rintro ⟨whole, afterWhole, first, fraction, afterFraction, second, power, _, third, rfl, same⟩
    exact ⟨whole, afterWhole, fraction, afterFraction, power, first, second, third, same⟩
  · rintro ⟨whole, afterWhole, fraction, afterFraction, power, first, second, third, same⟩
    exact ⟨whole, afterWhole, first, fraction, afterFraction, second, power, behind, third, rfl,
      same⟩

/-- A number literal that is read is a sound one made of parts, and leaves the end of its text. -/
theorem parts_of_readNumeral {number : Numeral} (read : readNumeral text = .ok (number, behind)) :
    number.Sound ∧ behind <:+ text ∧ ∃ negative whole fraction power,
      Numeral.ofParts negative whole fraction power = number := by
  -- Part by part, the end that is left grows shorter.
  cases text with
  | nil => cases read
  | cons c text =>
    obtain ⟨negative, body, ends, unsigned⟩ := readNumeral_unsigned c text
    have alone := unsigned []
    rw [List.append_nil, List.append_nil, read] at alone
    obtain ⟨whole, _, fraction, _, power, first, second, third, same, sound⟩ :=
      readUnsigned_eq_ok_iff.mp alone.symm
    have row := suffix_of_readDigits (readWhole_eq_ok_iff.mp first).1
    have tail := (readsBehind_exponent.suffix suffix_of_readPower third).trans
      (readsBehind_fraction.suffix suffix_of_readDigits second)
    exact ⟨sound, (tail.trans row).trans ends, negative, whole, fraction, power, same⟩

/-- A number literal is read alike in front of anything that may follow. -/
theorem readNumeral_append (follows : Follows rest) {number : Numeral}
    (read : readNumeral text = .ok (number, behind)) :
    readNumeral (text ++ rest) = .ok (number, behind ++ rest) := by
  -- Each of the three parts is read alike, and so is the sign in front of them.
  cases text with
  | nil => cases read
  | cons c text =>
    obtain ⟨negative, body, _, unsigned⟩ := readNumeral_unsigned c text
    have alone := unsigned []
    rw [List.append_nil, List.append_nil, read] at alone
    obtain ⟨whole, _, fraction, _, power, first, second, third, same⟩ :=
      readUnsigned_eq_ok_iff.mp alone.symm
    rw [unsigned rest]
    exact readUnsigned_eq_ok_iff.mpr ⟨whole, _, fraction, _, power, readWhole_append follows first,
      readFraction_append follows second, readExponent_append follows third, same⟩

end Reading

section Integers

variable {rest : List Char}

/-- The digits of a number are read as a whole part. -/
theorem readWhole_natDigits (stops : Stops rest) (value : Nat) :
    readWhole (natDigits value ++ rest) = .ok (natDigits value, rest) := by
  -- Only zero is written with a zero in front, and zero is written with that alone.
  refine readWhole_eq_ok_iff.mpr ⟨readDigits_eq_ok_iff.mpr ⟨natDigits_ne_nil value,
    fun c member => isDigit_of_mem_natDigits member, rfl, stops.undigited⟩, ?_⟩
  intro c digits zeros
  rcases Nat.eq_zero_or_pos value with rfl | positive
  · cases zeros
  · exact head?_natDigits positive (by rw [zeros]; rfl)

/-- The literal of an integer. -/
def Numeral.ofInt (value : Int) : Numeral :=
  ⟨value < 0, value.natAbs, 0, true⟩

/-- An integer of 64 bits, with a sign or without one, is the value of its literal. -/
theorem Numeral.integer?_ofInt {value : Int} (low : -0x8000000000000000 ≤ value)
    (high : value ≤ 0xFFFFFFFFFFFFFFFF) : (Numeral.ofInt value).integer? = some value := by
  -- Below zero the bound is that of words with a sign, and else that of words without one.
  unfold Numeral.integer? Numeral.ofInt
  by_cases negative : value < 0
  · have inside : ¬ (value.natAbs = 0 ∨ 0x8000000000000000 < value.natAbs) := by omega
    simp only [negative, decide_true, Bool.not_true, Bool.false_eq_true, if_false, if_true, inside,
      Option.some.injEq]
    omega
  · have inside : ¬ 0xFFFFFFFFFFFFFFFF < value.natAbs := by omega
    simp only [negative, decide_false, Bool.not_true, Bool.false_eq_true, if_false, inside,
      Option.some.injEq]
    omega

/-- The text of an integer of 64 bits is read back as its literal. -/
theorem readNumeral_intDigits (stops : Stops rest) {value : Int}
    (low : -0x8000000000000000 ≤ value) (high : value ≤ 0xFFFFFFFFFFFFFFFF) :
    readNumeral (intDigits value ++ rest) = .ok (.ofInt value, rest) := by
  -- An integer within 64 bits is sound as it is, whatever double it would be.
  have sound : (Numeral.ofInt value).Sound := .inl (by rw [Numeral.integer?_ofInt low high]; rfl)
  have unsigned : ∀ negative digits,
      Numeral.ofParts negative (natDigits digits) none none = .ofInt value →
      readUnsigned negative (natDigits digits ++ rest) = .ok (.ofInt value, rest) :=
    fun negative digits same => readUnsigned_eq_ok_iff.mpr ⟨_, _, _, _, _,
      readWhole_natDigits stops digits, stops.readFraction, stops.readExponent, same, sound⟩
  cases value with
  | ofNat value =>
    have plain : (natDigits value ++ rest).head? ≠ some '-' := by
      rw [List.head?_append]
      cases first : (natDigits value).head? with
      | none => exact absurd (List.head?_eq_none_iff.mp first) (natDigits_ne_nil value)
      | some c =>
        rintro ⟨⟩
        cases isDigit_of_mem_natDigits (List.mem_of_mem_head? first)
    refine (readNumeral_plain _ plain).trans (unsigned false value ?_)
    simp [Numeral.ofParts, Numeral.ofInt, digitsValue_natDigits]
  | negSucc value =>
    refine unsigned true (value + 1) ?_
    simp [Numeral.ofParts, Numeral.ofInt, digitsValue_natDigits]

/-- The text of an integer starts with a minus sign or a digit. -/
theorem intDigits_eq_cons (value : Int) :
    ∃ c text, intDigits value = c :: text ∧ (c = '-' ∨ c.isDigit = true) := by
  -- A natural number has a first digit, and any other integer a sign.
  cases value with
  | ofNat value =>
    cases digits : natDigits value with
    | nil => exact absurd digits (natDigits_ne_nil value)
    | cons c text =>
      exact ⟨c, text, digits, .inr (isDigit_of_mem_natDigits (by rw [digits]; simp))⟩
  | negSucc value => exact ⟨'-', _, rfl, .inl rfl⟩

/-- No number starts with a blank. -/
theorem isJsonBlank_of_opens {c : Char} (opens : c = '-' ∨ c.isDigit = true) :
    isJsonBlank c = false := by
  -- None of the four blanks is a minus sign or a digit.
  rw [Bool.eq_false_iff]
  intro blank
  simp only [isJsonBlank, Bool.or_eq_true, beq_iff_eq] at blank
  rcases blank with ((rfl | rfl) | rfl) | rfl <;> revert opens <;> decide

/-- A text that starts with no blank stays whole. -/
theorem dropBlanks_cons {c : Char} {text : List Char} (dark : isJsonBlank c = false) :
    dropBlanks (c :: text) = c :: text := by
  simp [dropBlanks, dark]

/-- A number is read where it starts, without blanks in front of it. -/
theorem readNumber_cons {c : Char} {text : List Char} (opens : c = '-' ∨ c.isDigit = true) :
    readNumber (c :: text) = readNumeral (c :: text) := by
  rw [readNumber, dropBlanks_cons (isJsonBlank_of_opens opens)]
  exact if_pos opens

/-- The text of an integer within bounds of 64 bits is read back as that integer. -/
theorem readWithin_intDigits (stops : Stops rest) {low high value : Int}
    (above : low ≤ value) (below : value ≤ high) (low64 : -0x8000000000000000 ≤ low)
    (high64 : high ≤ 0xFFFFFFFFFFFFFFFF) :
    readWithin low high (intDigits value ++ rest) = .ok (value, rest) := by
  -- The literal is that of the integer, which lies within the bounds.
  have read : readNumeral (intDigits value ++ rest) = .ok (.ofInt value, rest) :=
    readNumeral_intDigits stops (by omega) (by omega)
  obtain ⟨c, text, digits, opens⟩ := intDigits_eq_cons value
  rw [digits, List.cons_append] at read
  rw [digits, List.cons_append, ← readNumber_cons opens] at *
  have integer : (Numeral.ofInt value).integer? = some value :=
    Numeral.integer?_ofInt (by omega) (by omega)
  refine bind_eq_ok_iff.mpr ⟨_, read, ?_⟩
  simp only [integer]
  exact if_pos ⟨above, below⟩

end Integers

end Scoreboard
