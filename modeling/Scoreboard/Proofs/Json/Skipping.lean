import Scoreboard.Proofs.Json.Grammar

/-! Skipping: a value that nobody asked for is passed over whole, whatever is in it. -/

namespace Scoreboard

section Steps

variable {mode later : SkipMode} {brackets outer : List Bracket} {c : Char} {text rest : List Char}

/-- A step that goes on leads to what is passed over behind the character. -/
theorem skipFrom_next (step : skipStep mode brackets c text = .next later outer) :
    skipFrom mode brackets (c :: text) = skipFrom later outer text := by
  rw [skipFrom, step]

/-- Blanks are passed over where they may stand. -/
theorem skipFrom_blanks (gap : Blanks)
    (stays : ∀ c text, isJsonBlank c = true → skipStep mode brackets c text = .next mode brackets) :
    skipFrom mode brackets (gap.text ++ text) = skipFrom mode brackets text := by
  -- The mode is the same behind each blank, so the others are passed over in it as well.
  obtain ⟨blanks, blank⟩ := gap
  induction blanks with
  | nil => rfl
  | cons c blanks ih =>
    obtain ⟨first, others⟩ := List.forall_mem_cons.mp blank
    exact (skipFrom_next (stays c _ first)).trans (ih others)

/-- Blanks in front of a value are passed over. -/
theorem skipFrom_blanks_value (gap : Blanks) :
    skipFrom .value brackets (gap.text ++ text) = skipFrom .value brackets text :=
  skipFrom_blanks gap fun _ _ blank => if_pos blank

/-- Blanks behind an opening bracket are passed over. -/
theorem skipFrom_blanks_opened (gap : Blanks) (bracket : Bracket) :
    skipFrom (.opened bracket) brackets (gap.text ++ text) =
      skipFrom (.opened bracket) brackets text :=
  skipFrom_blanks gap fun _ _ blank => if_pos blank

/-- Blanks in front of a name are passed over. -/
theorem skipFrom_blanks_name (gap : Blanks) :
    skipFrom .name brackets (gap.text ++ text) = skipFrom .name brackets text :=
  skipFrom_blanks gap fun _ _ blank => if_pos blank

/-- Blanks in front of a colon are passed over. -/
theorem skipFrom_blanks_colon (gap : Blanks) :
    skipFrom .colon brackets (gap.text ++ text) = skipFrom .colon brackets text :=
  skipFrom_blanks gap fun _ _ blank => if_pos blank

/-- Blanks behind a value are passed over while a bracket is open. -/
theorem skipFrom_blanks_behind (gap : Blanks) (bracket : Bracket) :
    skipFrom .behind (bracket :: brackets) (gap.text ++ text) =
      skipFrom .behind (bracket :: brackets) text :=
  skipFrom_blanks gap fun _ _ blank => if_pos blank

/-- With no bracket open, skipping ends behind the value. -/
theorem skipFrom_behind (text : List Char) : skipFrom .behind [] text = .ok text := by
  cases text <;> rfl

/-- The bracket that closes is passed over with the brackets it stands in. -/
theorem skipFrom_close (bracket : Bracket) :
    skipFrom .behind (bracket :: brackets) (bracket.close :: text) =
      skipFrom .behind brackets text :=
  skipFrom_next (by cases bracket <;> rfl)

end Steps

section Numbers

variable {mode : NumeralMode} {brackets : List Bracket} {c : Char} {digits text rest : List Char}

/-- A character that belongs to a number literal is passed over. -/
theorem skipFrom_stay {later : NumeralMode} (step : mode.step c = .stay later) :
    skipFrom (.number mode) brackets (c :: text) = skipFrom (.number later) brackets text :=
  skipFrom_next (by simp only [skipStep, step])

/-- Digits on which a part of a number literal goes on are passed over. -/
theorem skipFrom_digits (row : ∀ c ∈ digits, c.isDigit = true)
    (stays : ∀ c, c.isDigit = true → mode.step c = .stay mode) :
    skipFrom (.number mode) brackets (digits ++ text) = skipFrom (.number mode) brackets text := by
  -- The induction is on the digits.
  induction digits with
  | nil => rfl
  | cons c digits ih =>
    obtain ⟨digit, row⟩ := List.forall_mem_cons.mp row
    exact (skipFrom_stay (stays c digit)).trans (ih row)

/-- A row of digits that leads into a part of a number literal is passed over there. -/
theorem skipFrom_row {later : NumeralMode} (row : IsRow digits)
    (enters : ∀ c, c.isDigit = true → mode.step c = .stay later)
    (stays : ∀ c, c.isDigit = true → later.step c = .stay later) :
    skipFrom (.number mode) brackets (digits ++ text) = skipFrom (.number later) brackets text := by
  -- The first digit leads into the part, and the others stay in it.
  obtain ⟨some, row⟩ := row
  cases digits with
  | nil => exact absurd rfl some
  | cons c digits =>
    obtain ⟨digit, row⟩ := List.forall_mem_cons.mp row
    exact (skipFrom_stay (enters c digit)).trans (skipFrom_digits row stays)

/-- A digit goes on with the whole part. -/
theorem step_whole (digit : c.isDigit = true) : NumeralMode.whole.step c = .stay .whole :=
  if_pos digit

/-- A digit behind the point starts the fraction. -/
theorem step_point (digit : c.isDigit = true) : NumeralMode.point.step c = .stay .fraction :=
  if_pos digit

/-- A digit goes on with the fraction. -/
theorem step_fraction (digit : c.isDigit = true) : NumeralMode.fraction.step c = .stay .fraction :=
  if_pos digit

/-- A digit behind an exponent mark is no sign. -/
theorem step_mark (digit : c.isDigit = true) : NumeralMode.mark.step c = .stay .exponent := by
  have plus : c ≠ '+' := by rintro rfl; cases digit
  have minus : c ≠ '-' := by rintro rfl; cases digit
  simp [NumeralMode.step, plus, minus, digit]

/-- A digit behind the sign of the exponent starts its digits. -/
theorem step_markSign (digit : c.isDigit = true) : NumeralMode.markSign.step c = .stay .exponent :=
  if_pos digit

/-- A digit goes on with the exponent. -/
theorem step_exponent (digit : c.isDigit = true) : NumeralMode.exponent.step c = .stay .exponent :=
  if_pos digit

/-- A literal that may end does so where neither a point nor a mark comes. -/
theorem stepEnded_of_ends {point exponent : Bool} (dot : c ≠ '.') (small : c ≠ 'e')
    (large : c ≠ 'E') : NumeralMode.stepEnded c point exponent = .ended := by
  simp [NumeralMode.stepEnded, dot, small, large]

/-- A number literal that may end does so in front of what follows it. -/
theorem skipFrom_complete (complete : mode.complete = true) (stops : Stops rest) :
    skipFrom (.number mode) brackets rest = skipFrom .behind brackets rest := by
  -- At the end of the text only the mode counts, and elsewhere the next character does as well.
  cases rest with
  | nil =>
    rw [skipFrom, skipFrom]
    simp only [skipEnd, complete, if_true]
  | cons c rest =>
    obtain ⟨digit, dot, small, large⟩ := stops c rfl
    have ended : mode.step c = .ended := by
      cases mode with
      | zero | whole | fraction => simp [NumeralMode.step, digit, stepEnded_of_ends dot small large]
      | exponent => simp [NumeralMode.step, digit]
      | _ => cases complete
    rw [skipFrom, skipFrom]
    simp only [skipStep, ended]

/-- An exponent is passed over, or there is none. -/
theorem skipFrom_exponent (exponent : ExponentPart text) (complete : mode.complete = true)
    (marks : ∀ c, c = 'e' ∨ c = 'E' → mode.step c = .stay .mark) (stops : Stops rest) :
    skipFrom (.number mode) brackets (text ++ rest) = skipFrom .behind brackets rest := by
  cases exponent with
  | absent => exact skipFrom_complete complete stops
  | @mark c sign digits mark signed row =>
    -- The digits stand behind the mark or behind the sign, and are the last part either way.
    have last : ∀ mode : NumeralMode,
        (∀ c, c.isDigit = true → mode.step c = .stay .exponent) →
        skipFrom (.number mode) brackets (digits ++ rest) = skipFrom .behind brackets rest :=
      fun mode enters => (skipFrom_row row enters fun _ => step_exponent).trans
        (skipFrom_complete rfl stops)
    rw [List.cons_append, skipFrom_stay (marks c mark), List.append_assoc]
    rcases signed with rfl | rfl | rfl
    · exact last .mark fun _ => step_mark
    · exact (skipFrom_stay rfl).trans (last .markSign fun _ => step_markSign)
    · exact (skipFrom_stay rfl).trans (last .markSign fun _ => step_markSign)

/-- Behind the whole part come a fraction and an exponent, or neither. -/
theorem skipFrom_behindWhole {fraction exponent : List Char} (second : FractionPart fraction)
    (third : ExponentPart exponent) (stops : Stops rest) (whole : mode = .zero ∨ mode = .whole) :
    skipFrom (.number mode) brackets (fraction ++ (exponent ++ rest)) =
      skipFrom .behind brackets rest := by
  -- A zero in front of the point differs from other digits only in that no digit may follow it.
  have marks : ∀ c, c = 'e' ∨ c = 'E' → mode.step c = .stay .mark := by
    rcases whole with rfl | rfl <;> rintro c (rfl | rfl) <;> rfl
  cases second with
  | absent => exact skipFrom_exponent third (by rcases whole with rfl | rfl <;> rfl) marks stops
  | point row =>
    have point : mode.step '.' = .stay .point := by rcases whole with rfl | rfl <;> rfl
    rw [List.cons_append, skipFrom_stay point,
      skipFrom_row row (fun _ => step_point) fun _ => step_fraction]
    refine skipFrom_exponent third rfl ?_ stops
    rintro c (rfl | rfl) <;> rfl

/-- A number literal is passed over, whatever parts it has. -/
theorem skipFrom_numberText (number : NumberText text) (stops : Stops rest) :
    skipFrom .value brackets (text ++ rest) = skipFrom .behind brackets rest := by
  obtain ⟨signed, first, second, third⟩ := number
  rename_i sign whole fraction exponent
  -- The first digit is met at the start of the value or behind the sign.
  have unsigned : ∀ mode, (∀ text, skipFrom mode brackets ('0' :: text) =
        skipFrom (.number .zero) brackets text) →
      (∀ c text, c.isDigit = true → c ≠ '0' →
        skipFrom mode brackets (c :: text) = skipFrom (.number .whole) brackets text) →
      skipFrom mode brackets (whole ++ (fraction ++ (exponent ++ rest))) =
        skipFrom .behind brackets rest := by
    intro mode zero digit
    cases first with
    | zero => exact (zero _).trans (skipFrom_behindWhole second third stops (.inl rfl))
    | row first other row =>
      rw [List.cons_append, digit _ _ first other,
        skipFrom_digits row fun _ => step_whole]
      exact skipFrom_behindWhole second third stops (.inr rfl)
  simp only [List.append_assoc]
  rcases signed with rfl | rfl
  · refine unsigned .value (fun text => skipFrom_next rfl) fun c text digit other => ?_
    refine skipFrom_next ?_
    have dark : isJsonBlank c = false := isJsonBlank_of_opens (.inr digit)
    simp only [skipStep, dark, Bool.false_eq_true, if_false]
    -- Of the digits only zero has a case of its own.
    unfold skipStart
    split <;> first | exact absurd rfl other | cases digit | exact if_pos digit
  · refine (skipFrom_next rfl).trans (unsigned (.number .sign) (fun text => skipFrom_next rfl) ?_)
    intro c text digit other
    exact skipFrom_stay (by simp [NumeralMode.step, digit, other])

/-- What does not carry a number literal on shows where the literal ends. -/
theorem NumberText.unique {other behind : List Char} (number : NumberText text) (stops : Stops rest)
    (numberToo : NumberText other) (stopsToo : Stops behind)
    (same : text ++ rest = other ++ behind) : text = other ∧ rest = behind := by
  -- Both literals are passed over in the same text, so the same is left behind them.
  have skipped : skipValue (text ++ rest) = .ok rest :=
    (skipFrom_numberText number stops).trans (skipFrom_behind rest)
  have skippedToo : skipValue (other ++ behind) = .ok behind :=
    (skipFrom_numberText numberToo stopsToo).trans (skipFrom_behind behind)
  rw [same, skippedToo] at skipped
  cases skipped
  exact ⟨List.append_cancel_right same, rfl⟩

end Numbers

section Strings

variable {brackets : List Bracket} {body text : List Char}

/-- The digits of a hexadecimal escape are passed over. -/
theorem skipFrom_hex {isName : Bool} {digits : List Char} {owed : Nat}
    (owes : digits.length = owed + 1)
    (hexadecimal : ∀ c ∈ digits, (hexValue? c).isSome = true) :
    skipFrom (.hex isName (owed + 1)) brackets (digits ++ text) =
      skipFrom (.string isName) brackets text := by
  -- Each digit but the last one leaves one digit less that is owed.
  induction owed generalizing digits with
  | zero =>
    obtain ⟨c, rfl⟩ := List.length_eq_one_iff.mp owes
    obtain ⟨value, digit⟩ := Option.isSome_iff_exists.mp (hexadecimal c List.mem_cons_self)
    exact skipFrom_next (by simp [skipStep, digit])
  | succ owed ih =>
    cases digits with
    | nil => cases owes
    | cons c digits =>
      obtain ⟨digit, others⟩ := List.forall_mem_cons.mp hexadecimal
      obtain ⟨value, digit⟩ := Option.isSome_iff_exists.mp digit
      exact (skipFrom_next (by simp [skipStep, digit])).trans
        (ih (Nat.succ.inj owes) others)

/-- A string is passed over up to its closing quote. -/
theorem skipFrom_stringBody (string : StringBody body) (isName : Bool) :
    skipFrom (.string isName) brackets (body ++ '"' :: text) =
      skipFrom (SkipMode.afterString isName) brackets text := by
  induction string with
  | nil => exact skipFrom_next rfl
  | plain quote backslash visible _ ih =>
    exact (skipFrom_next (by simp [skipStep, quote, backslash, visible])).trans ih
  | @letter c _ known _ ih =>
    -- The letter is none that opens hexadecimal digits.
    have other := ne_u_of_unescape? known
    rw [List.cons_append, List.cons_append, skipFrom_next rfl]
    exact (skipFrom_next (by simp [skipStep, other, known])).trans ih
  | unit four hexadecimal _ ih =>
    rw [List.cons_append, List.cons_append, List.append_assoc, skipFrom_next rfl,
      skipFrom_next rfl]
    exact (skipFrom_hex four hexadecimal).trans ih

/-- The first quote without a backslash shows where a string ends. -/
theorem StringBody.unique {other rest behind : List Char} (string : StringBody body)
    (stringToo : StringBody other) (same : body ++ '"' :: rest = other ++ '"' :: behind) :
    body = other ∧ rest = behind := by
  -- The same is left behind both strings, as with numbers.
  have skipped : skipFrom (.string false) [] (body ++ '"' :: rest) = .ok rest :=
    (skipFrom_stringBody string false).trans (skipFrom_behind rest)
  have skippedToo : skipFrom (.string false) [] (other ++ '"' :: behind) = .ok behind :=
    (skipFrom_stringBody stringToo false).trans (skipFrom_behind behind)
  rw [same, skippedToo] at skipped
  cases skipped
  exact ⟨List.append_cancel_right same, rfl⟩

end Strings

section Values

variable {brackets : List Bracket} {text rest : List Char}

/-- A value is passed over wherever it stands. -/
def Skipped (text : List Char) : Prop :=
  ∀ brackets rest, Ends rest →
    skipFrom .value brackets (text ++ rest) = skipFrom .behind brackets rest

/-- An element is passed over with its blanks, up to what follows them. -/
theorem skipFrom_element {element : Element} (skipped : Skipped element.value) {bracket : Bracket}
    (ends : Ends rest) :
    skipFrom .value (bracket :: brackets) (element.text ++ rest) =
      skipFrom .behind (bracket :: brackets) rest := by
  rw [Element.text, List.append_assoc, List.append_assoc, skipFrom_blanks_value,
    skipped _ _ (ends.append element.after), skipFrom_blanks_behind]

/-- A value may stand right behind the bracket that opens a list. -/
theorem skipFrom_opened_value (value : ValueText text) :
    skipFrom (.opened .list) brackets (text ++ rest) = skipFrom .value brackets (text ++ rest) := by
  -- The value does not start with the bracket that would close the list at once.
  obtain ⟨c, others, rfl, dark, _, bracket, _⟩ := value.head
  have close : c ≠ Bracket.list.close := bracket
  rw [List.cons_append, skipFrom, skipFrom]
  simp only [skipStep, dark, Bool.false_eq_true, if_false, if_neg close]

/-- The elements of a list are passed over behind the first one. -/
theorem skipFrom_elements {elements : List Element}
    (skipped : ∀ element ∈ elements, Skipped element.value) :
    skipFrom .behind (.list :: brackets)
      ((elements.map Element.text).flatMap (',' :: ·) ++ ']' :: rest) =
        skipFrom .behind brackets rest := by
  -- The induction is on the elements, each with a comma in front of it.
  induction elements with
  | nil => exact skipFrom_close .list
  | cons element elements ih =>
    obtain ⟨own, others⟩ := List.forall_mem_cons.mp skipped
    have comma : ∀ text, skipFrom .behind (.list :: brackets) (',' :: text) =
        skipFrom .value (.list :: brackets) text := fun text => skipFrom_next rfl
    rw [List.map_cons, commas_cons_append, comma,
      skipFrom_element own (ends_parts _ (ends_cons (.inr (.inl rfl))))]
    exact ih others

/-- A member is passed over from its name on. -/
theorem skipFrom_named {member : Member} (name : StringBody member.name)
    (skipped : Skipped member.content.value) (ends : Ends rest) :
    skipFrom (.string true) (.object :: brackets) (member.named ++ rest) =
      skipFrom .behind (.object :: brackets) rest := by
  -- The name is passed over as a string, then the colon, and then the value.
  have colon : ∀ text, skipFrom .colon (.object :: brackets) (':' :: text) =
      skipFrom .value (.object :: brackets) text := fun text => skipFrom_next rfl
  have after : SkipMode.afterString true = .colon := rfl
  simp only [Member.named, List.append_assoc, List.cons_append]
  rw [skipFrom_stringBody name, after, skipFrom_blanks_colon, colon,
    skipFrom_element skipped ends]

/-- The members of an object are passed over behind the first one. -/
theorem skipFrom_members {members : List Member}
    (names : ∀ member ∈ members, StringBody member.name)
    (skipped : ∀ member ∈ members, Skipped member.content.value) :
    skipFrom .behind (.object :: brackets)
      ((members.map Member.text).flatMap (',' :: ·) ++ '}' :: rest) =
        skipFrom .behind brackets rest := by
  -- The induction is on the members, each with a comma in front of it.
  induction members with
  | nil => exact skipFrom_close .object
  | cons member members ih =>
    obtain ⟨name, names⟩ := List.forall_mem_cons.mp names
    obtain ⟨own, others⟩ := List.forall_mem_cons.mp skipped
    have quote : ∀ text, skipFrom .name (.object :: brackets) ('"' :: text) =
        skipFrom (.string true) (.object :: brackets) text := fun text => skipFrom_next rfl
    have comma : ∀ text, skipFrom .behind (.object :: brackets) (',' :: text) =
        skipFrom .name (.object :: brackets) text := fun text => skipFrom_next rfl
    rw [List.map_cons, commas_cons_append, comma,
      Member.text, List.append_assoc, List.cons_append, skipFrom_blanks_name, quote,
      skipFrom_named name own (ends_parts _ (ends_cons (.inr (.inr rfl))))]
    exact ih names others

/-- A word is passed over letter by letter. -/
theorem skipFrom_word (letters : List Char) :
    skipFrom (.word letters) brackets (letters ++ rest) = skipFrom .behind brackets rest := by
  induction letters with
  | nil => cases rest <;> rfl
  | cons letter letters ih => exact (skipFrom_next (by simp [skipStep])).trans ih

/-- Every value is passed over, with all the values inside it. -/
theorem ValueText.skipped (value : ValueText text) : Skipped text := by
  intro brackets rest ends
  -- The induction goes into the value, and each of its brackets is one more that is open.
  induction value generalizing brackets rest with
  | null => exact (skipFrom_next rfl).trans (skipFrom_word _)
  | bool value => cases value <;> exact (skipFrom_next rfl).trans (skipFrom_word _)
  | number number => exact skipFrom_numberText number ends.stops
  | string body =>
    rw [List.cons_append, List.append_assoc, skipFrom_next rfl]
    exact skipFrom_stringBody body false
  | list gap elements values ih =>
    have own : ∀ element ∈ elements, Skipped element.value :=
      fun element member brackets rest ends => ih element member brackets rest ends
    rw [listText, List.cons_append, List.append_assoc, skipFrom_next rfl]
    -- Either the bracket closes behind blanks, or a first element stands without a comma.
    cases elements with
    | nil =>
      rw [List.map_nil, enclosed_nil, skipFrom_blanks_opened]
      exact skipFrom_next rfl
    | cons element elements =>
      obtain ⟨first, others⟩ := List.forall_mem_cons.mp own
      have value := values element List.mem_cons_self
      rw [List.map_cons, enclosed_cons, List.append_assoc, List.singleton_append,
        Element.text, List.append_assoc, skipFrom_blanks_opened, List.append_assoc, skipFrom_opened_value value,
        first _ _ ((ends_parts _ (ends_cons (.inr (.inl rfl)))).append element.after),
        skipFrom_blanks_behind]
      exact skipFrom_elements others
  | object gap members names values ih =>
    have own : ∀ member ∈ members, Skipped member.content.value :=
      fun member inside brackets rest ends => ih member inside brackets rest ends
    rw [objectText, List.cons_append, List.append_assoc, skipFrom_next rfl]
    cases members with
    | nil =>
      rw [List.map_nil, enclosed_nil, skipFrom_blanks_opened]
      exact skipFrom_next rfl
    | cons member members =>
      obtain ⟨first, others⟩ := List.forall_mem_cons.mp own
      obtain ⟨name, names⟩ := List.forall_mem_cons.mp names
      have quote : ∀ text, skipFrom (.opened .object) (.object :: brackets) ('"' :: text) =
          skipFrom (.string true) (.object :: brackets) text := fun text => skipFrom_next rfl
      rw [List.map_cons, enclosed_cons, List.append_assoc, List.singleton_append,
        Member.text, List.append_assoc, List.cons_append, skipFrom_blanks_opened, quote,
        skipFrom_named name first (ends_parts _ (ends_cons (.inr (.inr rfl))))]
      exact skipFrom_members names others

/-- What is left behind a value that is passed over is all that follows it. -/
theorem ValueText.skipValue_append (value : ValueText text) (ends : Ends rest) :
    skipValue (text ++ rest) = .ok rest :=
  (value.skipped [] rest ends).trans (skipFrom_behind rest)

/-- An element is passed over up to the blanks behind it. -/
theorem skipValue_element {element : Element} (written : ValueText element.value)
    (ends : Ends rest) :
    skipValue (element.text ++ rest) = .ok (element.after.text ++ rest) := by
  rw [Element.text, List.append_assoc, skipValue, skipFrom_blanks_value, List.append_assoc]
  exact written.skipValue_append (ends.append element.after)

end Values

end Scoreboard
