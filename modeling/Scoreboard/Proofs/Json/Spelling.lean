import Scoreboard.Proofs.Json.Grammar

/-! Spelling: the ways to write a string between quotes, and which string each of them stands for. -/

namespace Scoreboard

/-- What hexadecimal digits make of the number in front of them, none with another character. -/
def unitBehind? (before : Nat) (digits : List Char) : Option Nat :=
  digits.foldlM (fun unit c => (hexValue? c).map fun value => 16 * unit + value) before

/-- Four hexadecimal digits with the value of a 16-bit unit. -/
def SpellsUnit (digits : List Char) (unit : Nat) : Prop :=
  digits.length = 4 ∧ unitBehind? 0 digits = some unit

/-- A text stands for characters when it is put between quotes. No surrogate is without its other half. -/
inductive Spells : List Char → List Char → Prop
  | nil : Spells [] []
  | plain {c : Char} {text chars : List Char} (quote : c ≠ '"') (backslash : c ≠ '\\')
      (visible : ¬ c < ' ') (spells : Spells text chars) : Spells (c :: text) (c :: chars)
  | letter {c d : Char} {text chars : List Char} (known : unescape? c = some d)
      (spells : Spells text chars) : Spells ('\\' :: c :: text) (d :: chars)
  | unit {digits text chars : List Char} {unit : Nat} (four : SpellsUnit digits unit)
      (noLeading : isLeadingHalf unit = false) (noTrailing : isTrailingHalf unit = false)
      (spells : Spells text chars) :
      Spells ('\\' :: 'u' :: (digits ++ text)) (Char.ofNat unit :: chars)
  | pair {digits others text chars : List Char} {leading trailing : Nat}
      (first : SpellsUnit digits leading) (second : SpellsUnit others trailing)
      (opens : isLeadingHalf leading = true) (closes : isTrailingHalf trailing = true)
      (spells : Spells text chars) :
      Spells ('\\' :: 'u' :: (digits ++ '\\' :: 'u' :: (others ++ text)))
        (Char.ofNat (0x10000 + (leading - 0xD800) * 0x400 + (trailing - 0xDC00)) :: chars)

section Units

variable {before unit : Nat} {digits text : List Char}

/-- The first digit is added to sixteen times the number in front of it. -/
theorem unitBehind?_cons_iff {c : Char} : unitBehind? before (c :: digits) = some unit ↔
    ∃ value, hexValue? c = some value ∧ unitBehind? (16 * before + value) digits = some unit := by
  cases digit : hexValue? c <;> simp [unitBehind?, digit]

/-- Hexadecimal digits have a value, whatever number stands in front of them. -/
theorem exists_unitBehind? (hexadecimal : ∀ c ∈ digits, (hexValue? c).isSome = true) (before : Nat) :
    ∃ unit, unitBehind? before digits = some unit := by
  -- The induction is on the digits, each of which makes a larger number.
  induction digits generalizing before with
  | nil => exact ⟨before, rfl⟩
  | cons c digits ih =>
    obtain ⟨digit, others⟩ := List.forall_mem_cons.mp hexadecimal
    obtain ⟨value, digit⟩ := Option.isSome_iff_exists.mp digit
    obtain ⟨unit, spelled⟩ := ih others (16 * before + value)
    exact ⟨unit, unitBehind?_cons_iff.mpr ⟨value, digit, spelled⟩⟩

/-- The digits that spell a unit are hexadecimal. -/
theorem SpellsUnit.hexadecimal (spells : SpellsUnit digits unit) :
    ∀ c ∈ digits, (hexValue? c).isSome = true := by
  -- Later digits stand behind another number than zero.
  have general : ∀ (digits : List Char) (before : Nat), unitBehind? before digits = some unit →
      ∀ c ∈ digits, (hexValue? c).isSome = true := by
    intro digits
    induction digits with
    | nil => exact fun _ _ => List.forall_mem_nil _
    | cons c digits ih =>
      intro before spelled
      obtain ⟨value, digit, behind⟩ := unitBehind?_cons_iff.mp spelled
      exact List.forall_mem_cons.mpr ⟨by rw [digit]; rfl, ih _ behind⟩
  exact general digits 0 spells.2

/-- The last digit of an escape settles what it stands for. -/
def readUnit (leading : Option Nat) (unit : Nat) (text : List Char) :
    Except DecodeError ((List Char) × List Char) :=
  match leading with
  | some high =>
    if isTrailingHalf unit then
      (readChars .plain text).map fun (chars, rest) => (joinHalves high unit :: chars, rest)
    else .error .malformed
  | none =>
    if isTrailingHalf unit then .error .malformed
    else if isLeadingHalf unit then readChars (.half unit) text
    else (readChars .plain text).map fun (chars, rest) => (Char.ofNat unit :: chars, rest)

/-- The digits of an escape are read one by one. -/
theorem readChars_hex {leading : Option Nat} {owed : Nat} (long : digits.length = owed + 1)
    (spelled : unitBehind? before digits = some unit) :
    readChars (.hex leading (owed + 1) before) (digits ++ text) = readUnit leading unit text := by
  induction owed generalizing digits before with
  | zero =>
    obtain ⟨c, rfl⟩ := List.length_eq_one_iff.mp long
    obtain ⟨value, digit, last⟩ := unitBehind?_cons_iff.mp spelled
    -- No digit is owed behind this one, so the unit is complete with it.
    cases last
    simp only [List.singleton_append, readChars, digit]
    rfl
  | succ owed ih =>
    cases digits with
    | nil => cases long
    | cons c digits =>
      obtain ⟨value, digit, behind⟩ := unitBehind?_cons_iff.mp spelled
      have more : 1 < owed + 1 + 1 := by omega
      simp only [List.cons_append, readChars, digit, if_pos more]
      exact ih (Nat.succ.inj long) behind

/-- An escape of four digits is read as the unit they spell. -/
theorem readChars_unit (spells : SpellsUnit digits unit) (text : List Char) :
    readChars .plain ('\\' :: 'u' :: (digits ++ text)) = readUnit none unit text :=
  readChars_hex spells.1 spells.2

/-- Behind a leading half, an escape is read as the other half. -/
theorem readChars_half {leading : Nat} (spells : SpellsUnit digits unit) (text : List Char) :
    readChars (.half leading) ('\\' :: 'u' :: (digits ++ text)) = readUnit (some leading) unit text :=
  readChars_hex spells.1 spells.2

end Units

section Strings

variable {body chars behind : List Char}

/-- A text that spells characters is one that may stand between quotes. -/
theorem Spells.stringBody (spells : Spells body chars) : StringBody body := by
  -- A pair is two escapes to the grammar, and the other ways of spelling are one part each.
  induction spells with
  | nil => exact .nil
  | plain quote backslash visible _ ih => exact .plain quote backslash visible ih
  | letter known _ ih => exact .letter (by rw [known]; rfl) ih
  | unit four _ _ _ ih => exact .unit four.1 four.hexadecimal ih
  | pair first second _ _ _ ih =>
    exact .unit first.1 first.hexadecimal (.unit second.1 second.hexadecimal ih)

/-- A character that needs no escape. -/
def needsNoEscape (c : Char) : Bool :=
  c ≠ '"' && c ≠ '\\' && !c < ' '

/-- No quote, no backslash and no control can do without an escape, and all else can. -/
theorem needsNoEscape_iff : needsNoEscape c = true ↔ c ≠ '"' ∧ c ≠ '\\' ∧ ¬ c < ' ' := by
  simp only [needsNoEscape, Bool.and_eq_true, Bool.not_eq_true', decide_eq_true_eq,
    decide_eq_false_iff_not, and_assoc]

/-- Characters that need no escape spell themselves. -/
theorem Spells.plainly (plain : chars.all needsNoEscape = true) : Spells chars chars := by
  -- The induction is on the characters.
  induction chars with
  | nil => exact .nil
  | cons c chars ih =>
    obtain ⟨own, others⟩ := Bool.and_eq_true_iff.mp plain
    obtain ⟨quote, backslash, visible⟩ := needsNoEscape_iff.mp own
    exact .plain quote backslash visible (ih others)

/-- Characters that need no escape are written as they are. -/
theorem flatMap_escapeChar (plain : chars.all needsNoEscape = true) :
    chars.flatMap escapeChar = chars := by
  induction chars with
  | nil => rfl
  | cons c chars ih =>
    obtain ⟨own, others⟩ := Bool.and_eq_true_iff.mp plain
    obtain ⟨quote, backslash, visible⟩ := needsNoEscape_iff.mp own
    have self : escapeChar c = [c] := by
      unfold escapeChar
      -- The characters that have an escape of their own are the quote, the backslash and controls.
      split
      case h_1 => exact absurd rfl quote
      case h_2 => exact absurd rfl backslash
      case h_8 => exact if_neg visible
      all_goals exact absurd (by decide) visible
    rw [List.flatMap_cons, self, ih others]
    rfl

/-- A letter behind a backslash is read as the character that it stands for. -/
theorem readChars_letter {c d : Char} (known : unescape? c = some d) (text : List Char) :
    readChars .plain ('\\' :: c :: text) =
      (readChars .plain text).map fun (chars, rest) => (d :: chars, rest) := by
  have other := ne_u_of_unescape? (by rw [known]; rfl)
  simp [readChars, other, known]

/-- A character in the way it is written spells itself, in front of what spells others. -/
theorem Spells.escapeChar (c : Char) {text chars : List Char} (spells : Spells text chars) :
    Spells (Scoreboard.escapeChar c ++ text) (c :: chars) := by
  unfold Scoreboard.escapeChar
  split
  case h_8 quote backslash _ _ _ _ _ =>
    split
    · rename_i control
      have small : c.toNat < 32 := control
      have whole : 16 * (c.toNat / 16) + c.toNat % 16 = c.toNat := Nat.div_add_mod c.toNat 16
      -- The four digits spell the code of the control, which is no half of a pair.
      have four : SpellsUnit ['0', '0', hexDigit (c.toNat / 16), hexDigit (c.toNat % 16)]
          c.toNat := by
        have zero : hexValue? '0' = some 0 := by decide
        refine ⟨rfl, ?_⟩
        simp [unitBehind?, zero, hexValue?_hexDigit (c.toNat / 16) (by omega),
          hexValue?_hexDigit (c.toNat % 16) (by omega), whole]
      have leading : isLeadingHalf c.toNat = false := by simp [isLeadingHalf]; omega
      have trailing : isTrailingHalf c.toNat = false := by simp [isTrailingHalf]; omega
      have unit := Spells.unit four leading trailing spells
      rwa [Char.ofNat_toNat] at unit
    · rename_i visible
      exact .plain quote backslash visible spells
  all_goals exact .letter rfl spells

/-- Characters that are written between quotes are spelled there. -/
theorem Spells.escaped (chars : List Char) : Spells (chars.flatMap Scoreboard.escapeChar) chars := by
  induction chars with
  | nil => exact .nil
  | cons c chars ih => exact .escapeChar c ih

/-- Characters are read from what spells them, up to the closing quote. -/
theorem Spells.readChars (spells : Spells body chars) (rest : List Char) :
    Scoreboard.readChars .plain (body ++ '"' :: rest) = .ok (chars, rest) := by
  induction spells with
  | nil => rfl
  | plain quote backslash visible _ ih =>
    simp [Scoreboard.readChars, quote, backslash, visible, ih, Except.map]
  | letter known _ ih =>
    rw [List.cons_append, List.cons_append, readChars_letter known, ih]
    rfl
  | unit four noLeading noTrailing _ ih =>
    rw [List.cons_append, List.cons_append, List.append_assoc, readChars_unit four, readUnit]
    simp [noLeading, noTrailing, ih, Except.map]
  | pair first second opens closes _ ih =>
    rename_i leading trailing _
    -- Leading and trailing halves are numbers of two ranges that do not meet.
    have notBoth : isTrailingHalf leading = false := by
      simp only [isLeadingHalf, isTrailingHalf, Bool.and_eq_true, decide_eq_true_eq,
        Bool.and_eq_false_iff, decide_eq_false_iff_not] at opens ⊢
      omega
    simp only [List.cons_append, List.append_assoc]
    rw [readChars_unit first, readUnit]
    simp only [notBoth, opens, Bool.false_eq_true, if_false, if_true]
    rw [readChars_half second, readUnit]
    simp [closes, ih, Except.map, joinHalves]

/-- Behind a leading half, a string has to go on with an escape of the trailing half. -/
theorem StringBody.of_half (string : StringBody body) {rest : List Char} {leading : Nat}
    (read : readChars (.half leading) (body ++ '"' :: rest) = .ok (chars, behind)) :
    ∃ digits text trailing others, body = '\\' :: 'u' :: (digits ++ text) ∧
      SpellsUnit digits trailing ∧ isTrailingHalf trailing = true ∧ StringBody text ∧
      readChars .plain (text ++ '"' :: rest) = .ok (others, behind) ∧
      chars = joinHalves leading trailing :: others := by
  -- Every other way for a string to go on is refused behind a leading half.
  cases string with
  | nil => cases read
  | plain _ backslash _ _ => simp [readChars, backslash] at read
  | @letter c others known _ =>
    have other := ne_u_of_unescape? known
    simp [readChars, other] at read
  | @unit digits text four hexadecimal string =>
    obtain ⟨trailing, spelled⟩ := exists_unitBehind? hexadecimal 0
    have spells : SpellsUnit digits trailing := ⟨four, spelled⟩
    rw [List.cons_append, List.cons_append, List.append_assoc, readChars_half spells,
      readUnit] at read
    split at read
    · rename_i closes
      obtain ⟨⟨others, end'⟩, inner, same⟩ := map_eq_ok_iff.mp read
      cases same
      exact ⟨digits, text, trailing, others, rfl, spells, closes, string, inner, rfl⟩
    · cases read

/-- What is read up to a closing quote has been spelled there, and nothing of it is left. -/
theorem StringBody.spells (string : StringBody body) {rest : List Char}
    (read : readChars .plain (body ++ '"' :: rest) = .ok (chars, behind)) :
    behind = rest ∧ Spells body chars := by
  -- The induction is on the length, since two escapes that make a pair are read in one go.
  induction long : body.length using Nat.strongRecOn generalizing body chars with
  | ind length ih =>
    subst long
    cases string with
    | nil =>
      cases read
      exact ⟨rfl, .nil⟩
    | @plain c text quote backslash visible string =>
      simp only [List.cons_append, readChars, if_neg quote, if_neg backslash, if_neg visible] at read
      obtain ⟨⟨others, end'⟩, inner, same⟩ := map_eq_ok_iff.mp read
      cases same
      obtain ⟨rfl, spells⟩ := ih _ (by simp) string inner rfl
      exact ⟨rfl, .plain quote backslash visible spells⟩
    | @letter c text known string =>
      obtain ⟨d, known⟩ := Option.isSome_iff_exists.mp known
      rw [List.cons_append, List.cons_append, readChars_letter known] at read
      obtain ⟨⟨others, end'⟩, inner, same⟩ := map_eq_ok_iff.mp read
      cases same
      obtain ⟨rfl, spells⟩ := ih _ (by simp only [List.length_cons]; omega) string inner rfl
      exact ⟨rfl, .letter known spells⟩
    | @unit digits text four hexadecimal string =>
      obtain ⟨unit, spelled⟩ := exists_unitBehind? hexadecimal 0
      have first : SpellsUnit digits unit := ⟨four, spelled⟩
      rw [List.cons_append, List.cons_append, List.append_assoc, readChars_unit first,
        readUnit] at read
      split at read
      · cases read
      · rename_i noTrailing
        split at read
        · -- A leading half wants another escape right behind it.
          rename_i opens
          obtain ⟨others, text, trailing, more, rfl, second, closes, string, inner, rfl⟩ :=
            string.of_half read
          obtain ⟨rfl, spells⟩ := ih _ (by simp; omega) string inner rfl
          exact ⟨rfl, .pair first second opens closes spells⟩
        · rename_i noLeading
          obtain ⟨⟨others, end'⟩, inner, same⟩ := map_eq_ok_iff.mp read
          cases same
          obtain ⟨rfl, spells⟩ := ih _ (by simp; omega) string inner rfl
          exact ⟨rfl, .unit first (Bool.eq_false_iff.mpr noLeading)
            (Bool.eq_false_iff.mpr noTrailing) spells⟩

/-- A string is read from between its quotes, as what is spelled there. -/
theorem StringBody.readString_iff (string : StringBody body) {rest : List Char} {value : String} :
    readString (body ++ '"' :: rest) = .ok (value, behind) ↔
      behind = rest ∧ Spells body value.toList := by
  -- A string is its characters, packed.
  unfold readString
  constructor
  · intro read
    obtain ⟨⟨chars, end'⟩, inner, same⟩ := map_eq_ok_iff.mp read
    cases same
    obtain ⟨rfl, spells⟩ := string.spells inner
    exact ⟨rfl, by rwa [String.toList_ofList]⟩
  · rintro ⟨rfl, spells⟩
    rw [spells.readChars, Except.map]
    simp [String.ofList_toList]

/-- Whatever spells two strings spells one string. -/
theorem Spells.unique {others : List Char} (one : Spells body chars) (two : Spells body others) :
    chars = others := by
  -- The same text is read once only.
  have first := one.readChars []
  rw [two.readChars []] at first
  cases first
  rfl

end Strings

end Scoreboard
