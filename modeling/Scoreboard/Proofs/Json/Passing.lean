import Scoreboard.Proofs.Json.Skipping

/-! Passing: what is passed over as a value is a value of the grammar. -/

namespace Scoreboard

/-- A text is its blanks and what stands behind them. -/
theorem exists_blanks (text : List Char) : ∃ gap : Blanks, text = gap.text ++ dropBlanks text :=
  ⟨⟨text.takeWhile isJsonBlank, List.all_eq_true.mp List.all_takeWhile⟩,
    List.takeWhile_append_dropWhile.symm⟩

/-- What stands behind the blanks of a text does not start with a blank. -/
theorem dark_of_dropBlanks {c : Char} {text rest : List Char} (behind : dropBlanks text = c :: rest) :
    isJsonBlank c = false := by
  have dark := List.head?_dropWhile_not isJsonBlank text
  rw [dropBlanks] at behind
  simpa [behind] using dark

/-- What has been passed of a number literal, by the part of it that is reached. -/
inductive NumeralMode.Reached : NumeralMode → List Char → Prop
  | sign : Reached .sign ['-']
  | zero {sign : List Char} (signed : sign = [] ∨ sign = ['-']) : Reached .zero (sign ++ ['0'])
  | whole {sign digits : List Char} {c : Char} (signed : sign = [] ∨ sign = ['-'])
      (first : c.isDigit = true) (other : c ≠ '0') (row : ∀ d ∈ digits, d.isDigit = true) :
      Reached .whole (sign ++ c :: digits)
  | point {sign whole : List Char} (signed : sign = [] ∨ sign = ['-']) (first : WholePart whole) :
      Reached .point (sign ++ (whole ++ ['.']))
  | fraction {sign whole digits : List Char} (signed : sign = [] ∨ sign = ['-'])
      (first : WholePart whole) (row : IsRow digits) :
      Reached .fraction (sign ++ (whole ++ '.' :: digits))
  | mark {sign whole fraction : List Char} {c : Char} (signed : sign = [] ∨ sign = ['-'])
      (first : WholePart whole) (second : FractionPart fraction) (mark : c = 'e' ∨ c = 'E') :
      Reached .mark (sign ++ (whole ++ (fraction ++ [c])))
  | markSign {sign whole fraction : List Char} {c s : Char} (signed : sign = [] ∨ sign = ['-'])
      (first : WholePart whole) (second : FractionPart fraction) (mark : c = 'e' ∨ c = 'E')
      (signedToo : s = '+' ∨ s = '-') : Reached .markSign (sign ++ (whole ++ (fraction ++ [c, s])))
  | exponent {sign whole fraction power digits : List Char} {c : Char}
      (signed : sign = [] ∨ sign = ['-']) (first : WholePart whole)
      (second : FractionPart fraction) (mark : c = 'e' ∨ c = 'E')
      (signedToo : power = [] ∨ power = ['+'] ∨ power = ['-']) (row : IsRow digits) :
      Reached .exponent (sign ++ (whole ++ (fraction ++ c :: (power ++ digits))))

section Literals

variable {brackets : List Bracket} {mode later : NumeralMode} {c : Char}
  {passed letters text rest : List Char}

/-- A word is passed over only where its letters stand. -/
theorem word_of_skipFrom (skipped : skipFrom (.word letters) brackets text = .ok rest) :
    ∃ behind, text = letters ++ behind ∧ skipFrom .behind brackets behind = .ok rest := by
  -- The induction is on the letters that are still wanted.
  induction letters generalizing text with
  | nil =>
    have same : skipFrom (.word []) brackets text = skipFrom .behind brackets text :=
      skipFrom_word []
    exact ⟨text, rfl, same ▸ skipped⟩
  | cons letter letters ih =>
    cases text with
    | nil => cases skipped
    | cons c text =>
      rw [skipFrom] at skipped
      simp only [skipStep] at skipped
      by_cases same : letter = c
      · rw [if_pos same] at skipped
        obtain ⟨behind, rfl, goes⟩ := ih skipped
        exact ⟨behind, by rw [same, List.cons_append], goes⟩
      · rw [if_neg same] at skipped
        cases skipped

/-- A literal may end where its last part is complete, and is a whole one there. -/
theorem NumeralMode.Reached.numberText (reached : mode.Reached passed)
    (complete : mode.complete = true) : NumberText passed := by
  -- Only four parts are complete, and each makes a literal with nothing behind it.
  cases reached with
  | zero signed =>
    simpa using NumberText.parts signed .zero .absent .absent
  | whole signed first other row =>
    simpa using NumberText.parts signed (.row first other row) .absent .absent
  | fraction signed first row =>
    simpa using NumberText.parts signed first (.point row) .absent
  | exponent signed first second mark signedToo row =>
    exact .parts signed first second (.mark mark signedToo row)
  | _ => cases complete

/-- Digits with one more behind them are a row. -/
theorem IsRow.concat {digits : List Char} (row : ∀ d ∈ digits, d.isDigit = true)
    (digit : c.isDigit = true) : IsRow (digits ++ [c]) := by
  -- A digit of the new row is an old one, or the last.
  exact ⟨by simp, List.forall_mem_append.mpr ⟨row, List.forall_mem_singleton.mpr digit⟩⟩

/-- Where a digit may come next, either it does or the literal goes on in the other way. -/
theorem NumeralMode.digit_or {next : NumeralMode} {other : NumeralStep}
    (stays : (if c.isDigit = true then .stay next else other) = NumeralStep.stay later) :
    (c.isDigit = true ∧ next = later) ∨ other = .stay later := by
  -- The two branches are the two cases.
  split at stays
  · rename_i digit
    cases stays
    exact .inl ⟨digit, rfl⟩
  · exact .inr stays

/-- A literal that may end goes on with a point, if it has had none, or with a mark. -/
theorem NumeralMode.point_or_mark {point : Bool}
    (stays : NumeralMode.stepEnded c point true = .stay later) :
    (c = '.' ∧ point = true ∧ later = .point) ∨ ((c = 'e' ∨ c = 'E') ∧ later = .mark) := by
  -- The third branch ends the literal, so one of the others was taken.
  unfold NumeralMode.stepEnded at stays
  split at stays
  · rename_i both
    cases stays
    exact .inl ⟨both.1, both.2, rfl⟩
  · split at stays
    · rename_i both
      cases stays
      exact .inr ⟨both.1, rfl⟩
    · cases stays

/-- Behind the minus sign stands a zero, or the first of a row of digits. -/
theorem NumeralMode.Reached.behindSign (stays : NumeralMode.step .sign c = .stay later) :
    later.Reached ['-', c] := by
  -- A zero goes its own way, since no digit may follow it.
  simp only [NumeralMode.step] at stays
  split at stays
  · rename_i same
    cases stays
    exact same ▸ .zero (.inr rfl)
  · rename_i other
    obtain ⟨digit, rfl⟩ | broken := NumeralMode.digit_or stays
    · exact .whole (.inr rfl) digit other (List.forall_mem_nil _)
    · cases broken

/-- Behind the digits in front of the point, a literal goes on with a point or a mark. -/
theorem NumeralMode.Reached.behindWhole {sign whole : List Char} (signed : sign = [] ∨ sign = ['-'])
    (first : WholePart whole) (stays : NumeralMode.stepEnded c true true = .stay later) :
    later.Reached (sign ++ whole ++ [c]) := by
  obtain ⟨rfl, _, rfl⟩ | ⟨mark, rfl⟩ := NumeralMode.point_or_mark stays
  · simpa using Reached.point signed first
  · simpa using Reached.mark signed first .absent mark

/-- Behind the digits of the fraction only a mark may come, since a second point is none of it. -/
theorem NumeralMode.Reached.behindFraction {sign whole digits : List Char}
    (signed : sign = [] ∨ sign = ['-']) (first : WholePart whole) (row : IsRow digits)
    (stays : NumeralMode.stepEnded c false true = .stay later) :
    later.Reached (sign ++ (whole ++ '.' :: digits) ++ [c]) := by
  obtain ⟨_, second, _⟩ | ⟨mark, rfl⟩ := NumeralMode.point_or_mark stays
  · cases second
  · simpa using Reached.mark signed first (.point row) mark

/-- Behind the mark stands a sign, or the first of the digits. -/
theorem NumeralMode.Reached.behindMark {sign whole fraction : List Char} {e : Char}
    (signed : sign = [] ∨ sign = ['-']) (first : WholePart whole) (second : FractionPart fraction)
    (mark : e = 'e' ∨ e = 'E') (stays : NumeralMode.step .mark c = .stay later) :
    later.Reached (sign ++ (whole ++ (fraction ++ [e])) ++ [c]) := by
  -- A sign leads to where only a digit may come, and a digit leads on by itself.
  simp only [NumeralMode.step] at stays
  split at stays
  · rename_i signedToo
    cases stays
    simpa using Reached.markSign signed first second mark signedToo
  · obtain ⟨digit, rfl⟩ | broken := NumeralMode.digit_or stays
    · simpa using Reached.exponent signed first second mark (.inl rfl)
        (IsRow.concat (List.forall_mem_nil _) digit)
    · cases broken

/-- One more character of a literal leads on to the part that it belongs to. -/
theorem NumeralMode.Reached.step (reached : mode.Reached passed) (stays : mode.step c = .stay later) :
    later.Reached (passed ++ [c]) := by
  -- A part of digits goes on with another digit. Only where it may end can another part follow.
  cases reached with
  | sign => exact .behindSign stays
  | zero signed =>
    simp only [NumeralMode.step] at stays
    split at stays
    · cases stays
    · exact .behindWhole signed .zero stays
  | whole signed first other row =>
    obtain ⟨digit, rfl⟩ | ended := NumeralMode.digit_or stays
    · simpa using Reached.whole signed first other (IsRow.concat row digit).2
    · exact .behindWhole signed (.row first other row) ended
  | point signed first =>
    obtain ⟨digit, rfl⟩ | broken := NumeralMode.digit_or stays
    · simpa using Reached.fraction signed first (IsRow.concat (List.forall_mem_nil _) digit)
    · cases broken
  | fraction signed first row =>
    obtain ⟨digit, rfl⟩ | ended := NumeralMode.digit_or stays
    · simpa using Reached.fraction signed first (IsRow.concat row.2 digit)
    · exact .behindFraction signed first row ended
  | mark signed first second mark => exact .behindMark signed first second mark stays
  | @markSign _ _ _ _ s signed first second mark signedToo =>
    obtain ⟨digit, rfl⟩ | broken := NumeralMode.digit_or stays
    · have power : [s] = [] ∨ [s] = ['+'] ∨ [s] = ['-'] := by simpa using signedToo
      simpa using Reached.exponent signed first second mark power
        (IsRow.concat (List.forall_mem_nil _) digit)
    · cases broken
  | exponent signed first second mark signedToo row =>
    obtain ⟨digit, rfl⟩ | ended := NumeralMode.digit_or stays
    · simpa using Reached.exponent signed first second mark signedToo (IsRow.concat row.2 digit)
    · cases ended

/-- Where a literal has ended, it could end. -/
theorem NumeralMode.complete_of_ended (ended : mode.step c = .ended) : mode.complete = true := by
  -- Where a literal is not complete, its step has no branch that ends it.
  cases mode with
  | zero | whole | fraction | exponent => rfl
  | sign | point | mark | markSign =>
    simp only [NumeralMode.step] at ended
    repeat' split at ended
    all_goals cases ended

/-- A number is passed over only where a literal stands, a part of which may be passed before. -/
theorem number_of_skipFrom (reached : mode.Reached passed)
    (skipped : skipFrom (.number mode) brackets text = .ok rest) :
    ∃ digits behind, text = digits ++ behind ∧ NumberText (passed ++ digits) ∧
      skipFrom .behind brackets behind = .ok rest := by
  -- The induction is on the text: a character goes on with the literal, or the literal ended in
  -- front.
  induction text generalizing mode passed with
  | nil =>
    rw [skipFrom] at skipped
    simp only [skipEnd] at skipped
    split at skipped
    · rename_i complete
      exact ⟨[], [], rfl, by simpa using reached.numberText complete, by rw [skipFrom]; exact skipped⟩
    · cases skipped
  | cons c text ih =>
    rw [skipFrom] at skipped
    simp only [skipStep] at skipped
    cases step : mode.step c with
    | stay later =>
      simp only [step] at skipped
      obtain ⟨digits, behind, rfl, number, goes⟩ := ih (reached.step step) skipped
      exact ⟨c :: digits, behind, rfl, by simpa using number, goes⟩
    | ended =>
      simp only [step] at skipped
      have number := reached.numberText (NumeralMode.complete_of_ended step)
      exact ⟨[], c :: text, rfl, by simpa using number, by rw [skipFrom]; exact skipped⟩
    | broken =>
      simp only [step] at skipped
      cases skipped

end Literals

/-- What has been passed of a string since the last character or escape that is whole. -/
inductive SkipMode.InString (isName : Bool) : SkipMode → List Char → Prop
  | between : InString isName (.string isName) []
  | escape : InString isName (.escape isName) ['\\']
  | hex {digits : List Char} {owed : Nat} (owes : digits.length + (owed + 1) = 4)
      (hexadecimal : ∀ c ∈ digits, (hexValue? c).isSome = true) :
      InString isName (.hex isName (owed + 1)) ('\\' :: 'u' :: digits)

section Strings

variable {brackets : List Bracket} {isName : Bool} {mode : SkipMode} {passed text rest : List Char}

/-- One more character closes a string, or goes to what has to be whole before it can close. -/
def SkipMode.InString.Leads (isName : Bool) (passed : List Char) (c : Char) (text rest : List Char)
    (brackets : List Bracket) : Prop :=
  (c = '"' ∧ StringBody passed ∧
    skipFrom (SkipMode.afterString isName) brackets text = .ok rest) ∨
  ∃ (later : SkipMode) (since : List Char), later.InString isName since ∧
    skipFrom later brackets text = .ok rest ∧
      ∀ body, StringBody (since ++ body) → StringBody (passed ++ c :: body)

section Characters

variable {c : Char}

/-- Between characters a string is closed, or goes on with a character or an escape. -/
theorem leads_between (skipped : skipFrom (.string isName) brackets (c :: text) = .ok rest) :
    SkipMode.InString.Leads isName [] c text rest brackets := by
  -- The tests are gone through in their order: the quote, the backslash and the controls.
  rw [skipFrom] at skipped
  simp only [skipStep] at skipped
  by_cases quote : c = '"'
  · rw [if_pos quote] at skipped
    exact .inl ⟨quote, .nil, skipped⟩
  rw [if_neg quote] at skipped
  by_cases backslash : c = '\\'
  · rw [if_pos backslash] at skipped
    exact .inr ⟨_, _, .escape, skipped, fun body string => by rw [backslash]; exact string⟩
  rw [if_neg backslash] at skipped
  by_cases control : c < ' '
  · rw [if_pos control] at skipped
    cases skipped
  rw [if_neg control] at skipped
  exact .inr ⟨_, _, .between, skipped, fun body string => .plain quote backslash control string⟩

/-- Behind a backslash comes a letter that is known, or the mark of a unit. -/
theorem leads_escape (skipped : skipFrom (.escape isName) brackets (c :: text) = .ok rest) :
    SkipMode.InString.Leads isName ['\\'] c text rest brackets := by
  -- Four digits are owed behind the mark, and behind a letter nothing is.
  rw [skipFrom] at skipped
  simp only [skipStep] at skipped
  by_cases unit : c = 'u'
  · rw [if_pos unit] at skipped
    exact .inr ⟨_, _, .hex rfl (List.forall_mem_nil _), skipped,
      fun body string => by rw [unit]; exact string⟩
  rw [if_neg unit] at skipped
  by_cases known : (unescape? c).isSome = true
  · rw [if_pos known] at skipped
    exact .inr ⟨_, _, .between, skipped, fun body string => .letter known string⟩
  · rw [if_neg known] at skipped
    cases skipped

/-- Inside an escape of four digits comes one more of them. -/
theorem leads_hex {digits : List Char} {owed : Nat} (owes : digits.length + (owed + 1) = 4)
    (hexadecimal : ∀ c ∈ digits, (hexValue? c).isSome = true)
    (skipped : skipFrom (.hex isName (owed + 1)) brackets (c :: text) = .ok rest) :
    SkipMode.InString.Leads isName ('\\' :: 'u' :: digits) c text rest brackets := by
  rw [skipFrom] at skipped
  simp only [skipStep] at skipped
  cases value : hexValue? c with
  | none =>
    simp only [value] at skipped
    cases skipped
  | some found =>
    simp only [value] at skipped
    have last : (hexValue? c).isSome = true := by rw [value]; rfl
    have all : ∀ d ∈ digits ++ [c], (hexValue? d).isSome = true :=
      List.forall_mem_append.mpr ⟨hexadecimal, List.forall_mem_singleton.mpr last⟩
    -- The escape is whole behind its fourth digit.
    cases owed with
    | zero =>
      refine .inr ⟨_, _, .between, skipped, fun body string => ?_⟩
      simpa using StringBody.unit (by simpa using owes) all string
    | succ owed =>
      have more : (digits ++ [c]).length + (owed + 1) = 4 := by
        rw [List.length_append, List.length_singleton]
        omega
      exact .inr ⟨_, _, .hex more all, skipped, fun body string => by simpa using string⟩

end Characters

/-- A string is passed over only up to a quote that closes it. -/
theorem SkipMode.InString.string (inside : mode.InString isName passed)
    (skipped : skipFrom mode brackets text = .ok rest) :
    ∃ body behind, text = body ++ '"' :: behind ∧ StringBody (passed ++ body) ∧
      skipFrom (SkipMode.afterString isName) brackets behind = .ok rest := by
  -- The induction is on the text, with what has been passed since the last whole character.
  induction text generalizing mode passed with
  | nil => cases inside <;> cases skipped
  | cons c text ih =>
    have leads : InString.Leads isName passed c text rest brackets := by
      cases inside with
      | between => exact leads_between skipped
      | escape => exact leads_escape skipped
      | hex owes hexadecimal => exact leads_hex owes hexadecimal skipped
    obtain ⟨rfl, closed, goes⟩ | ⟨later, since, stillInside, goes, whole⟩ := leads
    · exact ⟨[], text, rfl, by rwa [List.append_nil], goes⟩
    · obtain ⟨body, behind, rfl, string, goes⟩ := ih stillInside goes
      exact ⟨c :: body, behind, rfl, whole body string, goes⟩

/-- A string is passed over from between its quotes. -/
theorem string_of_skipFrom (skipped : skipFrom (.string isName) brackets text = .ok rest) :
    ∃ body behind, text = body ++ '"' :: behind ∧ StringBody body ∧
      skipFrom (SkipMode.afterString isName) brackets behind = .ok rest :=
  SkipMode.InString.between.string skipped

end Strings

section Values

variable {brackets : List Bracket} {c : Char} {text rest : List Char}

/-- A value stands in a text, and what is behind it is passed over. -/
def PassesValue (brackets : List Bracket) (text rest : List Char) : Prop :=
  ∃ (gap : Blanks) (value behind : List Char), text = gap.text ++ (value ++ behind) ∧
    ValueText value ∧ skipFrom .behind brackets behind = .ok rest

/-- A list goes on in a text behind an element, and what is behind the list is passed over. -/
def PassesElements (brackets : List Bracket) (text rest : List Char) : Prop :=
  ∃ (gap : Blanks) (elements : List Element) (behind : List Char),
    text = gap.text ++ ((elements.map Element.text).flatMap (',' :: ·) ++ ']' :: behind) ∧
      (∀ element ∈ elements, ValueText element.value) ∧
        skipFrom .behind brackets behind = .ok rest

/-- An object goes on in a text behind a member, and what is behind the object is passed over. -/
def PassesMembers (brackets : List Bracket) (text rest : List Char) : Prop :=
  ∃ (gap : Blanks) (members : List Member) (behind : List Char),
    text = gap.text ++ ((members.map Member.text).flatMap (',' :: ·) ++ '}' :: behind) ∧
      (∀ member ∈ members, StringBody member.name) ∧
        (∀ member ∈ members, ValueText member.content.value) ∧
          skipFrom .behind brackets behind = .ok rest

/-- In short texts nothing is passed over but values, and what goes on behind them. -/
structure PassesSoundly (length : Nat) : Prop where
  value : ∀ {brackets text rest}, text.length ≤ length →
    skipFrom .value brackets text = .ok rest → PassesValue brackets text rest
  elements : ∀ {brackets text rest}, text.length ≤ length →
    skipFrom .behind (.list :: brackets) text = .ok rest → PassesElements brackets text rest
  members : ∀ {brackets text rest}, text.length ≤ length →
    skipFrom .behind (.object :: brackets) text = .ok rest → PassesMembers brackets text rest

/-- Where blanks may stand and more has to come, a first character stands behind the blanks. -/
theorem first_of_skipFrom {mode : SkipMode}
    (skipped : skipFrom mode brackets text = .ok rest)
    (stays : ∀ c text, isJsonBlank c = true → skipStep mode brackets c text = .next mode brackets)
    (goesOn : skipEnd mode brackets = .error .truncated) :
    ∃ (gap : Blanks) (c : Char) (others : List Char), text = gap.text ++ c :: others ∧
      isJsonBlank c = false ∧ skipFrom mode brackets (c :: others) = .ok rest := by
  -- The blanks are passed over, and at the end of the text more was wanted.
  obtain ⟨gap, whole⟩ := exists_blanks text
  rw [whole, skipFrom_blanks gap stays] at skipped
  cases head : dropBlanks text with
  | nil =>
    rw [head, skipFrom, goesOn] at skipped
    cases skipped
  | cons c others =>
    rw [head] at whole skipped
    exact ⟨gap, c, others, whole, dark_of_dropBlanks head, skipped⟩

namespace PassesSoundly

variable {length : Nat}

/-- Behind an opening bracket come the elements of a list, and the bracket that closes it. -/
theorem list (sound : PassesSoundly length) (short : text.length ≤ length)
    (skipped : skipFrom (.opened .list) (.list :: brackets) text = .ok rest) :
    ∃ (gap : Blanks) (elements : List Element) (behind : List Char),
      text = enclosed gap (elements.map Element.text) ++ ']' :: behind ∧
        (∀ element ∈ elements, ValueText element.value) ∧
          skipFrom .behind brackets behind = .ok rest := by
  -- A list that does not close at once goes on like one behind a comma.
  obtain ⟨gap, c, others, whole, dark, goes⟩ :=
    first_of_skipFrom skipped (fun _ _ blank => if_pos blank) rfl
  by_cases close : c = ']'
  · -- The list closes at once.
    subst close
    exact ⟨gap, [], others, whole, List.forall_mem_nil _, goes⟩
  · -- A first element stands there as any value does.
    have same : skipFrom (.opened .list) (.list :: brackets) (c :: others) =
        skipFrom .value (.list :: brackets) (c :: others) := by
      have other : c ≠ Bracket.list.close := close
      rw [skipFrom, skipFrom]
      simp only [skipStep, dark, Bool.false_eq_true, if_false, if_neg other]
    rw [same, ← skipFrom_blanks_value gap, ← whole] at goes
    obtain ⟨before, value, behind, text, written, goes⟩ := sound.value short goes
    rw [text, List.length_append, List.length_append] at short
    obtain ⟨after, elements, last, same, values, goes⟩ := sound.elements (by omega) goes
    refine ⟨gap, ⟨before, value, after⟩ :: elements, last, ?_,
      List.forall_mem_cons.mpr ⟨written, values⟩, goes⟩
    simp [text, same, Element.text]

/-- Behind the quote that opens a name come the rest of the name, a colon and a value. -/
theorem named (sound : PassesSoundly length) (short : text.length ≤ length)
    (skipped : skipFrom (.string true) brackets text = .ok rest) :
    ∃ (name : List Char) (between before : Blanks) (value behind : List Char),
      text = name ++ '"' :: (between.text ++ ':' :: (before.text ++ (value ++ behind))) ∧
        StringBody name ∧ ValueText value ∧ skipFrom .behind brackets behind = .ok rest := by
  -- The name is passed over as a string, and behind it only a colon may stand.
  obtain ⟨name, text, rfl, string, goes⟩ := string_of_skipFrom skipped
  obtain ⟨between, c, others, rfl, dark, goes⟩ :=
    first_of_skipFrom goes (fun _ _ blank => if_pos blank) rfl
  rw [skipFrom] at goes
  simp only [skipStep, dark, Bool.false_eq_true, if_false] at goes
  by_cases colon : c = ':'
  · subst colon
    simp only [List.length_append, List.length_cons] at short
    obtain ⟨before, value, behind, rfl, written, goes⟩ := sound.value (by omega) goes
    exact ⟨name, between, before, value, behind, rfl, string, written, goes⟩
  · rw [if_neg colon] at goes
    cases goes

/-- Where a member has to come, it stands behind blanks and the quote that opens its name. -/
theorem member (sound : PassesSoundly length) (short : text.length ≤ length)
    (skipped : skipFrom .name brackets text = .ok rest) :
    ∃ (front : Blanks) (name : List Char) (between before : Blanks) (value behind : List Char),
      text = front.text ++ '"' ::
        (name ++ '"' :: (between.text ++ ':' :: (before.text ++ (value ++ behind)))) ∧
      StringBody name ∧ ValueText value ∧ skipFrom .behind brackets behind = .ok rest := by
  -- Behind the blanks only a quote may stand.
  obtain ⟨front, c, others, rfl, dark, goes⟩ :=
    first_of_skipFrom skipped (fun _ _ blank => if_pos blank) rfl
  rw [List.length_append, List.length_cons] at short
  rw [skipFrom] at goes
  simp only [skipStep, dark, Bool.false_eq_true, if_false] at goes
  by_cases quote : c = '"'
  · subst quote
    obtain ⟨name, between, before, value, behind, rfl, string, written, goes⟩ :=
      sound.named (by omega) goes
    exact ⟨front, name, between, before, value, behind, rfl, string, written, goes⟩
  · rw [if_neg quote] at goes
    cases goes

/-- Behind an opening brace come the members of an object, and the brace that closes it. -/
theorem object (sound : PassesSoundly length) (short : text.length ≤ length)
    (skipped : skipFrom (.opened .object) (.object :: brackets) text = .ok rest) :
    ∃ (gap : Blanks) (members : List Member) (behind : List Char),
      text = enclosed gap (members.map Member.text) ++ '}' :: behind ∧
        (∀ member ∈ members, StringBody member.name) ∧
          (∀ member ∈ members, ValueText member.content.value) ∧
            skipFrom .behind brackets behind = .ok rest := by
  -- Behind the blanks stands the brace that closes the object, or the quote of its first member.
  obtain ⟨gap, c, others, rfl, dark, goes⟩ :=
    first_of_skipFrom skipped (fun _ _ blank => if_pos blank) rfl
  rw [List.length_append, List.length_cons] at short
  rw [skipFrom] at goes
  simp only [skipStep, dark, Bool.false_eq_true, if_false] at goes
  by_cases close : c = Bracket.object.close
  · subst close
    exact ⟨gap, [], others, rfl, List.forall_mem_nil _, List.forall_mem_nil _, goes⟩
  rw [if_neg close] at goes
  by_cases quote : c = '"'
  · subst quote
    obtain ⟨name, between, before, value, behind, rfl, string, written, goes⟩ :=
      sound.named (by omega) goes
    simp only [List.length_append, List.length_cons] at short
    obtain ⟨after, members, last, rfl, names, values, goes⟩ := sound.members (by omega) goes
    refine ⟨gap, ⟨gap, name, between, before, value, after⟩ :: members, last, ?_,
      List.forall_mem_cons.mpr ⟨string, names⟩, List.forall_mem_cons.mpr ⟨written, values⟩, goes⟩
    simp [Member.text, Member.named, Element.text]
  · rw [if_neg quote] at goes
    cases goes

/-- A value stands where the passing of one starts. -/
theorem start (sound : PassesSoundly length) (short : text.length ≤ length)
    (dark : isJsonBlank c = false) (skipped : skipFrom .value brackets (c :: text) = .ok rest) :
    ∃ value behind : List Char, c :: text = value ++ behind ∧ ValueText value ∧
      skipFrom .behind brackets behind = .ok rest := by
  rw [skipFrom] at skipped
  simp only [skipStep, dark, Bool.false_eq_true, if_false] at skipped
  -- The first character tells what kind of value it is.
  generalize step : skipStart brackets c = next at skipped
  unfold skipStart at step
  split at step <;> subst step
  · obtain ⟨behind, rfl, goes⟩ := word_of_skipFrom skipped
    exact ⟨"null".toList, behind, rfl, .null, goes⟩
  · obtain ⟨behind, rfl, goes⟩ := word_of_skipFrom skipped
    exact ⟨_, behind, rfl, .bool true, goes⟩
  · obtain ⟨behind, rfl, goes⟩ := word_of_skipFrom skipped
    exact ⟨_, behind, rfl, .bool false, goes⟩
  · obtain ⟨body, behind, rfl, string, goes⟩ := string_of_skipFrom skipped
    exact ⟨_, behind, by simp, .string string, goes⟩
  · obtain ⟨gap, elements, behind, rfl, values, goes⟩ := sound.list short skipped
    exact ⟨_, behind, by simp [listText], .list gap elements values, goes⟩
  · obtain ⟨gap, members, behind, rfl, names, values, goes⟩ := sound.object short skipped
    exact ⟨_, behind, by simp [objectText], .object gap members names values, goes⟩
  · obtain ⟨digits, behind, rfl, number, goes⟩ := number_of_skipFrom .sign skipped
    exact ⟨_, behind, rfl, .number number, goes⟩
  · obtain ⟨digits, behind, rfl, number, goes⟩ := number_of_skipFrom (.zero (.inl rfl)) skipped
    exact ⟨_, behind, rfl, .number number, goes⟩
  · rename_i other
    by_cases digit : c.isDigit = true
    · rw [if_pos digit] at skipped
      have reached := NumeralMode.Reached.whole (.inl rfl) digit other (List.forall_mem_nil _)
      obtain ⟨digits, behind, rfl, number, goes⟩ := number_of_skipFrom reached skipped
      exact ⟨_, behind, rfl, .number number, goes⟩
    · rw [if_neg digit] at skipped
      cases skipped

/-- A value stands behind the blanks in front of it. -/
theorem value_behind (sound : PassesSoundly length) (short : text.length ≤ length + 1)
    (skipped : skipFrom .value brackets text = .ok rest) : PassesValue brackets text rest := by
  -- Behind the blanks stands the first character of the value.
  obtain ⟨gap, c, others, rfl, dark, goes⟩ :=
    first_of_skipFrom skipped (fun _ _ blank => if_pos blank) rfl
  rw [List.length_append, List.length_cons] at short
  obtain ⟨value, behind, same, written, goes⟩ := sound.start (by omega) dark goes
  exact ⟨gap, value, behind, by rw [same], written, goes⟩

/-- Behind an element stands the bracket that closes the list, or a comma and another element. -/
theorem elements_behind (sound : PassesSoundly length) (short : text.length ≤ length + 1)
    (skipped : skipFrom .behind (.list :: brackets) text = .ok rest) :
    PassesElements brackets text rest := by
  -- With the comma gone the text is shorter, so what follows is known to be sound.
  obtain ⟨gap, c, others, rfl, dark, goes⟩ :=
    first_of_skipFrom skipped (fun _ _ blank => if_pos blank) rfl
  rw [List.length_append, List.length_cons] at short
  rw [skipFrom] at goes
  simp only [skipStep, skipBehind, dark, Bool.false_eq_true, if_false] at goes
  by_cases close : c = Bracket.list.close
  · subst close
    exact ⟨gap, [], others, rfl, List.forall_mem_nil _, goes⟩
  rw [if_neg close] at goes
  by_cases comma : c = ','
  · subst comma
    obtain ⟨before, value, behind, rfl, written, goes⟩ := sound.value (by omega) goes
    simp only [List.length_append] at short
    obtain ⟨after, elements, last, rfl, values, goes⟩ := sound.elements (by omega) goes
    refine ⟨gap, ⟨before, value, after⟩ :: elements, last, ?_,
      List.forall_mem_cons.mpr ⟨written, values⟩, goes⟩
    simp [Element.text]
  · rw [if_neg comma] at goes
    cases goes

/-- Behind a member stands the brace that closes the object, or a comma and another member. -/
theorem members_behind (sound : PassesSoundly length) (short : text.length ≤ length + 1)
    (skipped : skipFrom .behind (.object :: brackets) text = .ok rest) :
    PassesMembers brackets text rest := by
  -- With the comma gone the text is shorter, so what follows is known to be sound.
  obtain ⟨gap, c, others, rfl, dark, goes⟩ :=
    first_of_skipFrom skipped (fun _ _ blank => if_pos blank) rfl
  rw [List.length_append, List.length_cons] at short
  rw [skipFrom] at goes
  simp only [skipStep, skipBehind, dark, Bool.false_eq_true, if_false] at goes
  by_cases close : c = Bracket.object.close
  · subst close
    exact ⟨gap, [], others, rfl, List.forall_mem_nil _, List.forall_mem_nil _, goes⟩
  rw [if_neg close] at goes
  by_cases comma : c = ','
  · subst comma
    obtain ⟨front, name, between, before, value, behind, rfl, string, written, goes⟩ :=
      sound.member (by omega) goes
    simp only [List.length_append, List.length_cons] at short
    obtain ⟨after, members, last, rfl, names, values, goes⟩ := sound.members (by omega) goes
    refine ⟨gap, ⟨front, name, between, before, value, after⟩ :: members, last, ?_,
      List.forall_mem_cons.mpr ⟨string, names⟩, List.forall_mem_cons.mpr ⟨written, values⟩, goes⟩
    simp [Member.text, Member.named, Element.text]
  · rw [if_neg comma] at goes
    cases goes

/-- What holds of short texts holds of texts with one more character. -/
theorem succ (sound : PassesSoundly length) : PassesSoundly (length + 1) where
  value := sound.value_behind
  elements := sound.elements_behind
  members := sound.members_behind

end PassesSoundly

/-- What is passed over is sound in texts of every length. -/
theorem passesSoundly (length : Nat) : PassesSoundly length := by
  -- The induction is on the length, since a value is passed over before what follows it.
  induction length with
  | zero =>
    refine ⟨?_, ?_, ?_⟩ <;> intro brackets text rest short skipped <;>
      rw [List.length_eq_zero_iff.mp (Nat.le_zero.mp short)] at skipped <;> cases skipped
  | succ length sound => exact sound.succ

/-- What is passed over as a value is one, with blanks in front of it. -/
theorem value_of_skipValue (skipped : skipValue text = .ok rest) :
    ∃ (gap : Blanks) (value : List Char), text = gap.text ++ (value ++ rest) ∧ ValueText value := by
  -- Outside of all brackets, what is behind the value is the rest.
  obtain ⟨gap, value, behind, same, written, goes⟩ :=
    (passesSoundly text.length).value (Nat.le_refl _) skipped
  rw [skipFrom_behind] at goes
  cases goes
  exact ⟨gap, value, same, written⟩

end Values

end Scoreboard
