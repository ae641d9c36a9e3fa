import Scoreboard.Proofs.Json.RoundTrip

/-! The grammar of JSON texts: values of any shape, with blanks wherever blanks may stand. -/

namespace Scoreboard

/-- A row of blanks, which may be empty. -/
structure Blanks where
  text : List Char
  blank : ∀ c ∈ text, isJsonBlank c = true

/-- A text that may follow a value: nothing, a blank, or what goes on behind a value. -/
def Ends (text : List Char) : Prop :=
  ∀ c ∈ text.head?, isJsonBlank c = true ∨ c = ',' ∨ c = ']' ∨ c = '}'

/-- A row of digits that is not empty. -/
def IsRow (digits : List Char) : Prop :=
  digits ≠ [] ∧ ∀ c ∈ digits, c.isDigit = true

/-- The digits in front of the point: zero alone, or a row that starts with another digit. -/
inductive WholePart : List Char → Prop
  | zero : WholePart ['0']
  | row {c : Char} {digits : List Char} (first : c.isDigit = true) (other : c ≠ '0')
      (row : ∀ d ∈ digits, d.isDigit = true) : WholePart (c :: digits)

/-- A point and the digits behind it, or neither. -/
inductive FractionPart : List Char → Prop
  | absent : FractionPart []
  | point {digits : List Char} (row : IsRow digits) : FractionPart ('.' :: digits)

/-- An exponent mark with its digits, between which a sign may stand, or nothing of this. -/
inductive ExponentPart : List Char → Prop
  | absent : ExponentPart []
  | mark {c : Char} {sign digits : List Char} (mark : c = 'e' ∨ c = 'E')
      (signed : sign = [] ∨ sign = ['+'] ∨ sign = ['-']) (row : IsRow digits) :
      ExponentPart (c :: (sign ++ digits))

/-- A number literal. -/
inductive NumberText : List Char → Prop
  | parts {sign whole fraction exponent : List Char} (signed : sign = [] ∨ sign = ['-'])
      (first : WholePart whole) (second : FractionPart fraction) (third : ExponentPart exponent) :
      NumberText (sign ++ (whole ++ (fraction ++ exponent)))

/-- What stands between the quotes of a string: characters and escapes, lone surrogates included. -/
inductive StringBody : List Char → Prop
  | nil : StringBody []
  | plain {c : Char} {text : List Char} (quote : c ≠ '"') (backslash : c ≠ '\\')
      (visible : ¬ c < ' ') (body : StringBody text) : StringBody (c :: text)
  | letter {c : Char} {text : List Char} (known : (unescape? c).isSome = true)
      (body : StringBody text) : StringBody ('\\' :: c :: text)
  | unit {digits text : List Char} (four : digits.length = 4)
      (hexadecimal : ∀ c ∈ digits, (hexValue? c).isSome = true) (body : StringBody text) :
      StringBody ('\\' :: 'u' :: (digits ++ text))

/-- An element of a list with the blanks around it. -/
structure Element where
  before : Blanks
  value : List Char
  after : Blanks

def Element.text (element : Element) : List Char :=
  element.before.text ++ (element.value ++ element.after.text)

/-- A member of an object with the blanks around it, its name as it stands between the quotes. -/
structure Member where
  before : Blanks
  name : List Char
  between : Blanks
  content : Element

/-- The text of a member from the quote on that opens its name. -/
def Member.named (member : Member) : List Char :=
  member.name ++ '"' :: (member.between.text ++ ':' :: member.content.text)

def Member.text (member : Member) : List Char :=
  member.before.text ++ '"' :: member.named

/-- What stands between two brackets: parts with commas between them, or blanks. -/
def enclosed (gap : Blanks) : List (List Char) → List Char
  | [] => gap.text
  | parts => commaSeparated parts

def listText (gap : Blanks) (elements : List Element) : List Char :=
  '[' :: (enclosed gap (elements.map Element.text) ++ [']'])

def objectText (gap : Blanks) (members : List Member) : List Char :=
  '{' :: (enclosed gap (members.map Member.text) ++ ['}'])

/-- A value of any shape, without blanks at its ends. -/
inductive ValueText : List Char → Prop
  | null : ValueText "null".toList
  | bool (value : Bool) : ValueText (Codec.bool.write value)
  | number {text : List Char} (number : NumberText text) : ValueText text
  | string {text : List Char} (body : StringBody text) : ValueText ('"' :: (text ++ ['"']))
  | list (gap : Blanks) (elements : List Element)
      (values : ∀ element ∈ elements, ValueText element.value) : ValueText (listText gap elements)
  | object (gap : Blanks) (members : List Member)
      (names : ∀ member ∈ members, StringBody member.name)
      (values : ∀ member ∈ members, ValueText member.content.value) :
      ValueText (objectText gap members)

/-- How a value goes on behind its first character. -/
def Continues : Char → List Char → Prop
  | 'n', text => text = "ull".toList
  | 't', text => text = "rue".toList
  | 'f', text => text = "alse".toList
  | '"', text => ∃ body, StringBody body ∧ text = body ++ ['"']
  | '[', text => ∃ (gap : Blanks) (elements : List Element),
    (∀ element ∈ elements, ValueText element.value) ∧
      text = enclosed gap (elements.map Element.text) ++ [']']
  | '{', text => ∃ (gap : Blanks) (members : List Member),
    (∀ member ∈ members, StringBody member.name) ∧
      (∀ member ∈ members, ValueText member.content.value) ∧
        text = enclosed gap (members.map Member.text) ++ ['}']
  | c, text => NumberText (c :: text)

/-- Between brackets without parts stand blanks. -/
@[simp] theorem enclosed_nil (gap : Blanks) : enclosed gap [] = gap.text :=
  rfl

/-- Between brackets stand parts, each but the first with a comma in front. -/
@[simp] theorem enclosed_cons (gap : Blanks) (part : List Char) (parts : List (List Char)) :
    enclosed gap (part :: parts) = part ++ parts.flatMap (',' :: ·) :=
  commaSeparated_cons part parts

/-- Each part behind the first one has a comma in front of it. -/
theorem commas_cons_append (part : List Char) (parts : List (List Char)) (rest : List Char) :
    (part :: parts).flatMap (',' :: ·) ++ rest =
      ',' :: (part ++ (parts.flatMap (',' :: ·) ++ rest)) := by
  rw [List.flatMap_cons, List.append_assoc, List.cons_append]

/-- The letter in front of hexadecimal digits stands for no character itself. -/
theorem ne_u_of_unescape? {c : Char} (known : (unescape? c).isSome = true) : c ≠ 'u' := by
  rintro rfl
  cases known

section Blanks

variable {text rest : List Char}

/-- The row without blanks. -/
def Blanks.none : Blanks :=
  ⟨[], List.forall_mem_nil _⟩

/-- Blanks in front of a text are dropped with the blanks that it starts with. -/
theorem Blanks.dropBlanks_append (gap : Blanks) (text : List Char) :
    dropBlanks (gap.text ++ text) = dropBlanks text :=
  List.dropWhile_append_of_pos gap.blank

/-- Of a row of blanks nothing is left. -/
theorem Blanks.dropBlanks_text (gap : Blanks) : dropBlanks gap.text = [] := by
  rw [← List.append_nil gap.text, gap.dropBlanks_append]
  rfl

end Blanks

section Ends

variable {text rest : List Char}

/-- A value may stand at the end of a text. -/
theorem ends_nil : Ends [] :=
  nofun

/-- A value may stand in front of a comma and of what closes a bracket. -/
theorem ends_cons {c : Char} (stops : c = ',' ∨ c = ']' ∨ c = '}') : Ends (c :: text) := by
  rintro d ⟨⟩
  exact .inr stops

/-- Blanks may stand between a value and what follows it. -/
theorem Ends.append (ends : Ends rest) (gap : Blanks) : Ends (gap.text ++ rest) := by
  -- What stands first is one of the blanks, or what stood there before.
  rintro c first
  cases blanks : gap.text with
  | nil =>
    rw [blanks] at first
    exact ends c first
  | cons d others =>
    rw [blanks] at first
    cases first
    exact .inl (gap.blank c (by rw [blanks]; exact List.mem_cons_self))

/-- A value may stand in front of blanks. -/
theorem ends_blanks (gap : Blanks) : Ends gap.text := by
  have nothing := ends_nil.append gap
  rwa [List.append_nil] at nothing

/-- Behind a part comes the comma of the next one, or what closes the bracket. -/
theorem ends_parts (parts : List (List Char)) (ends : Ends rest) :
    Ends (parts.flatMap (',' :: ·) ++ rest) := by
  cases parts with
  | nil => exact ends
  | cons part parts => exact ends_cons (.inl rfl)

/-- No number goes on behind a value. -/
theorem Ends.stops (ends : Ends rest) : Stops rest := by
  -- Each of the blanks and of the three marks is tested against what goes on in a number.
  intro c first
  have end' := ends c first
  simp only [isJsonBlank, Bool.or_eq_true, beq_iff_eq] at end'
  rcases end' with (((rfl | rfl) | rfl) | rfl) | rfl | rfl | rfl <;> decide

end Ends

section Heads

variable {text : List Char}

/-- The digits in front of the point start with a digit. -/
theorem WholePart.head (whole : WholePart text) : ∃ c digits, text = c :: digits ∧
    c.isDigit = true := by
  cases whole with
  | zero => exact ⟨_, _, rfl, rfl⟩
  | row first _ _ => exact ⟨_, _, rfl, first⟩

/-- A number literal starts with a minus sign or a digit. -/
theorem NumberText.head (number : NumberText text) : ∃ c rest, text = c :: rest ∧
    (c = '-' ∨ c.isDigit = true) := by
  -- Either there is a sign, or the digits come first.
  obtain ⟨rfl | rfl, whole, _, _⟩ := number
  · obtain ⟨c, digits, rfl, digit⟩ := whole.head
    exact ⟨c, _, rfl, .inr digit⟩
  · exact ⟨'-', _, rfl, .inl rfl⟩

/-- Every value starts with a character that opens one. -/
theorem ValueText.head (value : ValueText text) : ∃ c rest, text = c :: rest ∧ Opens c := by
  -- Each kind of value is told by its first character.
  cases value with
  | null => exact ⟨_, _, rfl, by decide⟩
  | bool value => cases value <;> exact ⟨_, _, rfl, by decide⟩
  | number number =>
    obtain ⟨c, rest, rfl, opens⟩ := number.head
    exact ⟨c, rest, rfl, opens_of_number opens⟩
  | string body => exact ⟨_, _, rfl, by decide⟩
  | list gap elements values => exact ⟨_, _, rfl, by decide⟩
  | object gap members names values => exact ⟨_, _, rfl, by decide⟩

/-- The first character of a value tells of what kind it is. -/
theorem ValueText.continues {c : Char} (value : ValueText (c :: text)) : Continues c text := by
  generalize same : c :: text = whole at value
  cases value with
  | null => cases same; rfl
  | bool value => cases value <;> cases same <;> rfl
  | number number =>
    subst same
    obtain ⟨_, _, first, opens⟩ := number.head
    cases first
    -- No other kind of value starts with a minus sign or a digit.
    unfold Continues
    split <;> first | exact number | exact absurd opens (by decide)
  | string body => cases same; exact ⟨_, body, rfl⟩
  | list gap elements values => cases same; exact ⟨gap, elements, values, rfl⟩
  | object gap members names values => cases same; exact ⟨gap, members, names, values, rfl⟩

/-- Only a number starts like a number. -/
theorem ValueText.number_of_head {c : Char} (value : ValueText (c :: text))
    (opens : c = '-' ∨ c.isDigit = true) : NumberText (c :: text) := by
  have continues := value.continues
  unfold Continues at continues
  split at continues <;> first | exact continues | exact absurd opens (by decide)

/-- No blanks stand in front of a value. -/
theorem ValueText.dropBlanks_append (value : ValueText text) (rest : List Char) :
    dropBlanks (text ++ rest) = text ++ rest := by
  obtain ⟨c, behind, rfl, opens⟩ := value.head
  exact dropBlanks_cons opens.1

end Heads

end Scoreboard
