import Scoreboard.Proofs.Json.Documents
import Scoreboard.Proofs.Json.Passing

/-! Soundness: what a codec reads is a value of the grammar. -/

namespace Scoreboard

/-- Blanks behind blanks. -/
def Blanks.append (first second : Blanks) : Blanks :=
  ⟨first.text ++ second.text, List.forall_mem_append.mpr ⟨first.blank, second.blank⟩⟩

/-- A text is a value with blanks in front of it, and a rest. -/
def StartsWithValue (text rest : List Char) : Prop :=
  ∃ (gap : Blanks) (value : List Char), text = gap.text ++ (value ++ rest) ∧ ValueText value

/-- Whatever a codec reads is a value. -/
def Codec.Sound {α : Type} (codec : Codec α) : Prop :=
  ∀ {room text value rest}, codec.read room text = .ok (value, rest) → StartsWithValue text rest

section Scalars

variable {c : Char} {text rest : List Char}

/-- A value may stand behind blanks. -/
theorem StartsWithValue.behind_blanks (starts : StartsWithValue (dropBlanks text) rest) :
    StartsWithValue text rest := by
  -- The blanks in front and those of the value are one row.
  obtain ⟨front, whole⟩ := exists_blanks text
  obtain ⟨gap, value, same, written⟩ := starts
  refine ⟨front.append gap, value, ?_, written⟩
  rw [whole, same, Blanks.append, List.append_assoc]

/-- A value may start with the first character of a text. -/
theorem StartsWithValue.of_append {value : List Char} (written : ValueText value)
    (same : text = value ++ rest) : StartsWithValue text rest :=
  ⟨.none, value, same, written⟩

/-- A word that is read stands in front. -/
theorem eq_of_readWord : ∀ {word text : List Char}, readWord word text = .ok rest →
    text = word ++ rest := by
  -- The induction is on the letters.
  intro word
  induction word with
  | nil =>
    intro text read
    cases read
    rfl
  | cons letter word ih =>
    intro text read
    cases text with
    | nil => cases read
    | cons c text =>
      simp only [readWord] at read
      split at read
      · rename_i same
        rw [same, ih read, List.cons_append]
      · cases read

/-- A flag is read from one of the two words. -/
theorem Codec.bool_sound : Codec.bool.Sound := by
  -- The first letter tells which of the two words has to follow.
  intro room text value rest read
  apply StartsWithValue.behind_blanks
  simp only [Codec.bool] at read
  split at read
  · cases read
  · obtain ⟨_, word, same⟩ := map_eq_ok_iff.mp read
    cases same
    rename_i head
    exact .of_append (.bool true) (by rw [head, eq_of_readWord word]; rfl)
  · obtain ⟨_, word, same⟩ := map_eq_ok_iff.mp read
    cases same
    rename_i head
    exact .of_append (.bool false) (by rw [head, eq_of_readWord word]; rfl)
  · cases read

/-- A whole number within bounds is read from a number literal. -/
theorem startsWithValue_of_readWithin {low high value : Int}
    (read : readWithin low high text = .ok (value, rest)) : StartsWithValue text rest := by
  -- The literal is tested behind its reading, which leaves the rest alone.
  obtain ⟨⟨literal, behind⟩, number, judged⟩ := bind_eq_ok_iff.mp read
  have same : behind = rest := by
    dsimp only at judged
    split at judged
    · cases judged
    · split at judged
      · cases judged
        rfl
      · cases judged
  subst same
  apply StartsWithValue.behind_blanks
  unfold readNumber at number
  split at number
  · cases number
  · rename_i head
    split at number
    · obtain ⟨digits, written, same⟩ := numberText_of_readNumeral number
      exact .of_append (.number written) (head.trans same)
    · cases number

/-- A number of 64 bits is read from a number literal. -/
theorem Codec.uint64_sound : Codec.uint64.Sound := by
  -- The number is read within bounds.
  intro room text value rest read
  obtain ⟨⟨integer, behind⟩, number, same⟩ := map_eq_ok_iff.mp read
  cases same
  exact startsWithValue_of_readWithin number

/-- How far a string is passed over where it is read. -/
def StringMode.passed : StringMode → SkipMode
  | .plain | .half _ => .string false
  | .escape | .halfEscape _ => .escape false
  | .hex _ owed _ => .hex false owed

section Following

variable {mode : StringMode} {chars : List Char}

/-- A string that is read goes on behind a character as its passing over does, or is over there. -/
def StringMode.Follows (mode : StringMode) (c : Char) (text rest : List Char) : Prop :=
  (skipStep mode.passed [] c text = .next .behind [] ∧ text = rest) ∨
    ∃ next others, skipStep mode.passed [] c text = .next (StringMode.passed next) [] ∧
      readChars next text = .ok (others, rest)

/-- What is put in front of the characters of a string changes nothing behind it. -/
theorem exists_others {front : List Char → List Char}
    (read : ((readChars .plain text).map fun (others, behind) => (front others, behind)) =
      .ok (chars, rest)) : ∃ others, readChars .plain text = .ok (others, rest) := by
  obtain ⟨⟨others, behind⟩, inner, same⟩ := map_eq_ok_iff.mp read
  cases same
  exact ⟨others, inner⟩

/-- Behind the last digit of an escape a string goes on between characters, or between halves of one. -/
theorem next_of_readUnit {leading : Option Nat} {unit : Nat}
    (read : readUnit leading unit text = .ok (chars, rest)) :
    ∃ next others, StringMode.passed next = .string false ∧
      readChars next text = .ok (others, rest) := by
  -- Only a leading half without another half behind it leaves the string inside a character.
  unfold readUnit at read
  cases leading with
  | some high =>
    dsimp only at read
    split at read
    · obtain ⟨others, inner⟩ := exists_others read
      exact ⟨.plain, others, rfl, inner⟩
    · cases read
  | none =>
    dsimp only at read
    split at read
    · cases read
    split at read
    · exact ⟨.half unit, chars, rfl, read⟩
    · obtain ⟨others, inner⟩ := exists_others read
      exact ⟨.plain, others, rfl, inner⟩

/-- Between characters, a string is read as it is passed over. -/
theorem follows_plain (read : readChars .plain (c :: text) = .ok (chars, rest)) :
    StringMode.Follows .plain c text rest := by
  -- Both test for the quote, the backslash and the controls, in this order.
  simp only [readChars] at read
  simp only [StringMode.Follows, StringMode.passed, skipStep]
  split at read
  · rename_i quote
    cases read
    exact .inl ⟨if_pos quote, rfl⟩
  rename_i quote
  rw [if_neg quote]
  split at read
  · rename_i backslash
    exact .inr ⟨.escape, chars, if_pos backslash, read⟩
  rename_i backslash
  rw [if_neg backslash]
  split at read
  · cases read
  rename_i visible
  obtain ⟨others, inner⟩ := exists_others read
  exact .inr ⟨.plain, others, if_neg visible, inner⟩

/-- Behind a backslash, a string is read as it is passed over. -/
theorem follows_escape (read : readChars .escape (c :: text) = .ok (chars, rest)) :
    StringMode.Follows .escape c text rest := by
  -- Both want the mark of a unit, or a letter that stands for a character.
  simp only [readChars] at read
  simp only [StringMode.Follows, StringMode.passed, skipStep]
  split at read
  · rename_i unit
    exact .inr ⟨.hex none 4 0, chars, if_pos unit, read⟩
  rename_i unit
  rw [if_neg unit]
  split at read
  · cases read
  rename_i known
  obtain ⟨others, inner⟩ := exists_others read
  exact .inr ⟨.plain, others, by rw [known]; rfl, inner⟩

/-- Inside an escape of four digits, a string is read as it is passed over. -/
theorem follows_hex {leading : Option Nat} {owed unit : Nat}
    (read : readChars (.hex leading owed unit) (c :: text) = .ok (chars, rest)) :
    StringMode.Follows (.hex leading owed unit) c text rest := by
  -- Both count the digits that are owed, and only reading looks at what they make.
  simp only [StringMode.Follows, StringMode.passed, skipStep]
  cases digit : hexValue? c with
  | none =>
    simp only [readChars, digit] at read
    cases read
  | some value =>
    by_cases more : 1 < owed
    · simp only [readChars, digit, if_pos more] at read ⊢
      exact .inr ⟨.hex leading (owed - 1) (16 * unit + value), chars, rfl, read⟩
    · simp only [readChars, digit, if_neg more] at read ⊢
      obtain ⟨next, others, passed, inner⟩ := next_of_readUnit read
      exact .inr ⟨next, others, congrArg (SkipStep.next · []) passed.symm, inner⟩

/-- Each character of a string that is read is passed over. -/
theorem StringMode.follows (read : readChars mode (c :: text) = .ok (chars, rest)) :
    mode.Follows c text rest := by
  cases mode with
  | plain => exact follows_plain read
  | escape => exact follows_escape read
  | hex leading owed unit => exact follows_hex read
  | half leading =>
    -- The other half starts as every escape does.
    simp only [readChars] at read
    split at read
    · rename_i backslash
      subst backslash
      exact .inr ⟨.halfEscape leading, chars, rfl, read⟩
    · cases read
  | halfEscape leading =>
    simp only [readChars] at read
    split at read
    · rename_i unit
      subst unit
      exact .inr ⟨.hex (some leading) 4 0, chars, rfl, read⟩
    · cases read

/-- A string that is read is passed over as well. -/
theorem skipFrom_of_readChars (read : readChars mode text = .ok (chars, rest)) :
    skipFrom mode.passed [] text = .ok rest := by
  -- The induction is on the text, one character at a time.
  induction text generalizing mode chars with
  | nil => cases mode <;> cases read
  | cons c text ih =>
    obtain ⟨closes, rfl⟩ | ⟨next, others, step, inner⟩ := StringMode.follows read
    · exact (skipFrom_next closes).trans (skipFrom_behind text)
    · exact (skipFrom_next step).trans (ih inner)

end Following

/-- A string is read up to a quote that closes it. -/
theorem string_of_readString {value : String} (read : readString text = .ok (value, rest)) :
    ∃ body, text = body ++ '"' :: rest ∧ StringBody body := by
  -- A string is passed over up to a quote, and nothing goes on behind it.
  obtain ⟨_, chars, same⟩ := map_eq_ok_iff.mp read
  cases same
  obtain ⟨body, behind, same, string, goes⟩ := string_of_skipFrom (skipFrom_of_readChars chars)
  have nothing : skipFrom .behind [] behind = .ok behind := skipFrom_behind behind
  cases nothing.symm.trans goes
  exact ⟨body, same, string⟩

/-- A string is read from between two quotes. -/
theorem Codec.string_sound : Codec.string.Sound := by
  -- Behind the blanks only a quote may open it.
  intro room text value rest read
  apply StartsWithValue.behind_blanks
  simp only [Codec.string] at read
  split at read
  · cases read
  · rename_i head
    obtain ⟨body, rfl, string⟩ := string_of_readString read
    exact .of_append (.string string) (by rw [head]; simp)
  · cases read

/-- What may be `null` is `null`, or what its own codec reads. -/
theorem Codec.Sound.optional {α : Type} {codec : Codec α} (sound : codec.Sound) :
    codec.optional.Sound := by
  -- The first letter tells whether `null` has to follow.
  intro room text value rest read
  apply StartsWithValue.behind_blanks
  simp only [Codec.optional] at read
  split at read
  · cases read
  · obtain ⟨_, word, same⟩ := map_eq_ok_iff.mp read
    cases same
    rename_i head
    exact .of_append .null (by rw [head, eq_of_readWord word]; rfl)
  · obtain ⟨_, inner, same⟩ := map_eq_ok_iff.mp read
    cases same
    exact sound inner

end Scalars

section Objects

variable {σ α β : Type} {αs : List Type} {room : Nat} {text rest : List Char}

/-- Behind a colon stands a value. -/
def StartsWithContent (text rest : List Char) : Prop :=
  ∃ (between : Blanks) (content : List Char), text = between.text ++ ':' :: content ∧
    StartsWithValue content rest

/-- The codecs of all members are sound. -/
def Fields.Sound {αs : List Type} : Fields αs → Prop
  | .nil => True
  | .cons field fields => field.codec.Sound ∧ fields.Sound

/-- A colon that is read stands behind blanks. -/
theorem colon_of_readColon (read : readColon text = .ok rest) :
    ∃ between : Blanks, text = between.text ++ ':' :: rest := by
  -- Only a colon matches the branch that goes on.
  obtain ⟨between, whole⟩ := exists_blanks text
  simp only [readColon] at read
  split at read
  · cases read
  · rename_i head
    cases read
    exact ⟨between, by rw [whole, head]⟩
  · cases read

/-- A member of an object is read from a colon and a value, whatever its name. -/
theorem Fields.content_of_readMember {fields : Fields αs} (sound : fields.Sound) {name : String}
    {slots later : Slots αs} (read : fields.readMember room name slots text = .ok (later, rest)) :
    StartsWithContent text rest := by
  -- The induction is on the members: the one with the name reads the value, and an unknown one is
  -- passed over.
  induction fields with
  | nil =>
    obtain ⟨content, colon, read⟩ := bind_eq_ok_iff.mp read
    obtain ⟨_, skipped, same⟩ := bind_eq_ok_iff.mp read
    cases same
    obtain ⟨between, rfl⟩ := colon_of_readColon colon
    exact ⟨between, content, rfl, value_of_skipValue skipped⟩
  | cons field fields ih =>
    obtain ⟨slot, slots⟩ := slots
    simp only [readMember] at read
    split at read
    · cases slot with
      | some filled => cases read
      | none =>
        obtain ⟨content, colon, read⟩ := bind_eq_ok_iff.mp read
        obtain ⟨_, value, same⟩ := bind_eq_ok_iff.mp read
        cases same
        obtain ⟨between, rfl⟩ := colon_of_readColon colon
        exact ⟨between, content, rfl, sound.1 value⟩
    · obtain ⟨_, others, same⟩ := bind_eq_ok_iff.mp read
      cases same
      exact ih sound.2 others

/-- Texts between which an object goes on from member to member. -/
def SoundMember (member : σ → List Char → Except DecodeError (σ × List Char)) : Prop :=
  ∀ state text later rest, member state text = .ok (later, rest) →
    ∃ name content : List Char, text = name ++ '"' :: content ∧ StringBody name ∧
      StartsWithContent content rest

/-- The members of an object are read from members of the grammar, up to the closing brace. -/
theorem members_of_readMembers {member : σ → List Char → Except DecodeError (σ × List Char)}
    (sound : SoundMember member) {state later : σ} {turns : Nat} (front : Blanks)
    (read : readMembers member turns state text = .ok (later, rest)) :
    ∃ (first : Member) (others : List Member),
      front.text ++ '"' :: text =
        first.text ++ ((others.map Member.text).flatMap (',' :: ·) ++ '}' :: rest) ∧
        (∀ member ∈ first :: others, StringBody member.name) ∧
          ∀ member ∈ first :: others, ValueText member.content.value := by
  -- The induction is on the turns, one for each member.
  induction turns generalizing state text front with
  | zero => cases read
  | succ turns ih =>
    obtain ⟨⟨between, behind⟩, own, goes⟩ := bind_eq_ok_iff.mp read
    obtain ⟨name, _, rfl, string, gap, _, rfl, before, value, rfl, written⟩ := sound _ _ _ _ own
    obtain ⟨after, whole⟩ := exists_blanks behind
    dsimp only at goes
    split at goes
    · cases goes
    · -- The object closes behind its last member.
      rename_i head
      cases goes
      refine ⟨⟨front, name, gap, before, value, after⟩, [], ?_, List.forall_mem_singleton.mpr string,
        List.forall_mem_singleton.mpr written⟩
      rw [whole, head]
      simp [Member.text, Member.named, Element.text]
    · rename_i _ behindComma comma
      obtain ⟨frontToo, wholeToo⟩ := exists_blanks behindComma
      split at goes
      · cases goes
      · rename_i quote
        obtain ⟨second, others, same, names, values⟩ := ih frontToo goes
        refine ⟨⟨front, name, gap, before, value, after⟩, second :: others, ?_,
          List.forall_mem_cons.mpr ⟨string, names⟩, List.forall_mem_cons.mpr ⟨written, values⟩⟩
        rw [whole, comma, wholeToo, quote, same]
        simp [Member.text, Member.named, Element.text]
      · cases goes
    · cases goes

/-- An object that is read is one of the grammar, behind its opening brace. -/
theorem object_of_readObject {member : σ → List Char → Except DecodeError (σ × List Char)}
    (sound : SoundMember member) {start later : σ}
    (read : readObject member start text = .ok (later, rest)) :
    ∃ (gap : Blanks) (members : List Member),
      text = enclosed gap (members.map Member.text) ++ '}' :: rest ∧
        (∀ member ∈ members, StringBody member.name) ∧
          ∀ member ∈ members, ValueText member.content.value := by
  -- The object closes at once, or there is a quote that opens a first name.
  obtain ⟨gap, whole⟩ := exists_blanks text
  simp only [readObject] at read
  split at read
  · cases read
  · rename_i head
    cases read
    exact ⟨gap, [], by rw [whole, head]; rfl, List.forall_mem_nil _, List.forall_mem_nil _⟩
  · rename_i quote
    obtain ⟨first, others, same, names, values⟩ := members_of_readMembers sound gap read
    refine ⟨gap, first :: others, ?_, names, values⟩
    rw [whole, quote, same, List.map_cons, enclosed_cons, List.append_assoc]
  · cases read

end Objects

section Lists

variable {α β : Type} {αs : List Type} {room index : Nat} {first : Bool} {text rest : List Char}

/-- An element stands behind blanks, and behind a comma unless it is the first one. -/
theorem element_of_nextElement {next : List Char} (found : nextElement first text = .ok (some next)) :
    ∃ (gap front : Blanks),
      text = gap.text ++ ((if first then [] else [',']) ++ (front.text ++ next)) := by
  -- A first element needs no comma, and a later one is found behind one.
  obtain ⟨gap, whole⟩ := exists_blanks text
  simp only [nextElement] at found
  split at found
  · cases found
  · cases found
  · rename_i head
    split at found
    · rename_i isFirst
      cases found
      exact ⟨gap, .none, by rw [whole, head, if_pos isFirst]; rfl⟩
    · rename_i later
      split at found
      · rename_i comma
        split at found
        · cases found
        · cases found
        · cases found
          rename_i behind _ _ _ _
          obtain ⟨front, wholeToo⟩ := exists_blanks behind
          exact ⟨gap, front, by rw [whole, head, if_neg later, comma, ← wholeToo]; rfl⟩
      · cases found

/-- Where no element is found, the bracket stands that closes the list. -/
theorem bracket_of_nextElement (found : nextElement first text = .ok none) :
    ∃ behind, dropBlanks text = ']' :: behind := by
  -- All other branches find an element or fail.
  simp only [nextElement] at found
  split at found
  · cases found
  · rename_i head
    exact ⟨_, head⟩
  · split at found
    · cases found
    · split at found
      · split at found <;> cases found
      · cases found

/-- A list that is closed ends with its bracket, behind blanks. -/
theorem bracket_of_closeList (closed : closeList text = .ok rest) :
    ∃ gap : Blanks, text = gap.text ++ ']' :: rest := by
  -- Only a bracket matches the branch that goes on.
  obtain ⟨gap, whole⟩ := exists_blanks text
  simp only [closeList] at closed
  split at closed
  · cases closed
  · rename_i head
    cases closed
    exact ⟨gap, by rw [whole, head]⟩
  · cases closed

/-- At a closing bracket there are no elements to read. -/
theorem Fields.readList_bracket {fields : Fields αs} {values : Tuple αs} {behind middle : List Char}
    (closes : dropBlanks text = ']' :: behind)
    (read : fields.readList room index text = .ok (values, middle)) : middle = text := by
  -- The induction is on the values, none of which finds an element.
  induction fields generalizing index with
  | nil =>
    cases read
    rfl
  | cons field fields ih =>
    have none : ∀ first, nextElement first text = .ok none := fun first => by
      simp only [nextElement, closes]
    simp only [readList, none] at read
    obtain ⟨_, found, read⟩ := bind_eq_ok_iff.mp read
    cases found
    dsimp only at read
    split at read
    · cases read
    · obtain ⟨_, others, same⟩ := bind_eq_ok_iff.mp read
      cases same
      exact ih others

/-- How a list goes on in front of its closing bracket, at its first element or behind one. -/
def listBehind (first : Bool) (gap : Blanks) (elements : List Element) : List Char :=
  if first then enclosed gap (elements.map Element.text)
  else gap.text ++ (elements.map Element.text).flatMap (',' :: ·)

/-- A list that closes at once has no more elements. -/
theorem listBehind_of_closeList (closed : closeList text = .ok rest) :
    ∃ (gap : Blanks) (elements : List Element), text = listBehind first gap elements ++ ']' :: rest ∧
      ∀ element ∈ elements, ValueText element.value := by
  -- Whether a comma would have been needed does not matter to a list without elements.
  obtain ⟨gap, same⟩ := bracket_of_closeList closed
  refine ⟨gap, [], ?_, List.forall_mem_nil _⟩
  rw [same]
  cases first <;> simp [listBehind]

/-- The elements of a list are read from values of the grammar, up to the closing bracket. -/
theorem Fields.elements_of_readList {fields : Fields αs} (sound : fields.Sound)
    {values : Tuple αs} {middle : List Char}
    (read : fields.readList room index text = .ok (values, middle))
    (closed : closeList middle = .ok rest) :
    ∃ (gap : Blanks) (elements : List Element),
      text = listBehind (index == 0) gap elements ++ ']' :: rest ∧
        ∀ element ∈ elements, ValueText element.value := by
  induction fields generalizing index text with
  | nil =>
    cases read
    exact listBehind_of_closeList closed
  | cons field fields ih =>
    obtain ⟨next, found, goes⟩ := bind_eq_ok_iff.mp read
    cases next with
    | none =>
      obtain ⟨behind, bracket⟩ := bracket_of_nextElement found
      have same := readList_bracket bracket read
      exact listBehind_of_closeList (same ▸ closed)
    | some next =>
      obtain ⟨gap, front, whole⟩ := element_of_nextElement found
      obtain ⟨⟨value, between⟩, own, goes⟩ := bind_eq_ok_iff.mp goes
      obtain ⟨⟨others, last⟩, list, same⟩ := bind_eq_ok_iff.mp goes
      cases same
      obtain ⟨frontToo, written, rfl, isValue⟩ := sound.1 own
      obtain ⟨after, elements, rfl, values⟩ := ih sound.2 list
      have later : (index + 1 == 0) = false := rfl
      -- The blanks around the comma belong to what stands before it and to the element behind it.
      cases first : index == 0 with
      | true =>
        refine ⟨gap, ⟨gap.append (front.append frontToo), written, after⟩ :: elements, ?_,
          List.forall_mem_cons.mpr ⟨isValue, values⟩⟩
        rw [whole, first, later]
        simp [listBehind, Element.text, Blanks.append]
      | false =>
        refine ⟨gap, ⟨front.append frontToo, written, after⟩ :: elements, ?_,
          List.forall_mem_cons.mpr ⟨isValue, values⟩⟩
        rw [whole, first, later]
        simp [listBehind, Element.text, Blanks.append]

end Lists

section Whole

variable {α β : Type} {αs : List Type} {codec : Codec α} {record : Record αs β} {text : List Char}

/-- Members of a record are read from names and values. -/
theorem Fields.soundMember {fields : Fields αs} (inner : fields.Sound) {room : Nat} :
    SoundMember (fun (slots : Slots αs) text => do
      let (name, text) ← readString text
      fields.readMember room name slots text) := by
  -- The name is read as a string, and the rest by what the string says.
  intro slots text later rest read
  obtain ⟨⟨name, content⟩, own, goes⟩ := bind_eq_ok_iff.mp read
  obtain ⟨body, same, string⟩ := string_of_readString own
  exact ⟨body, content, same, string, Fields.content_of_readMember inner goes⟩

/-- A record is read from an object or from a list. -/
theorem Record.sound (inner : record.fields.Sound) : record.codec.Sound := by
  -- The first character tells whether an object or a list is read.
  intro room text value rest read
  apply StartsWithValue.behind_blanks
  simp only [Record.codec] at read
  split at read
  · cases read
  · cases read
  · cases read
  · rename_i head
    obtain ⟨⟨values, middle⟩, list, read⟩ := bind_eq_ok_iff.mp read
    obtain ⟨_, closed, same⟩ := bind_eq_ok_iff.mp read
    cases same
    obtain ⟨gap, elements, rfl, values⟩ := Fields.elements_of_readList inner list closed
    exact .of_append (.list gap elements values) (by rw [head]; simp [listText, listBehind])
  · rename_i head
    obtain ⟨_, whole, same⟩ := map_eq_ok_iff.mp read
    cases same
    obtain ⟨⟨slots, middle⟩, object, complete⟩ := bind_eq_ok_iff.mp whole
    obtain ⟨_, _, same⟩ := bind_eq_ok_iff.mp complete
    cases same
    obtain ⟨gap, members, rfl, names, values⟩ :=
      object_of_readObject (Fields.soundMember inner) object
    exact .of_append (.object gap members names values) (by rw [head]; simp [objectText])
  · cases read

/-- A whole text that is decoded is a value with blanks around it. -/
theorem Codec.Sound.value_of_decode (sound : codec.Sound) {value : α}
    (decoded : codec.decode text = .ok value) :
    ∃ (before after : Blanks) (written : List Char),
      text = before.text ++ (written ++ after.text) ∧ ValueText written := by
  -- Decoding goes through only if nothing but blanks is left.
  obtain ⟨⟨first, behind⟩, read, judged⟩ := bind_eq_ok_iff.mp decoded
  obtain ⟨before, written, rfl, isValue⟩ := sound read
  obtain ⟨after, whole⟩ := exists_blanks behind
  dsimp only at judged
  split at judged
  · rename_i nothing
    rw [nothing, List.append_nil] at whole
    exact ⟨before, after, written, by rw [whole], isValue⟩
  · cases judged

section Entries

variable {room : Nat} {members : List Member} {value : β}

/-- Every member of an object that is read has a name. -/
theorem exists_entries {fields : Fields αs} {slots later : Slots αs}
    (leads : Leads (fields.Step room) slots members later) :
    ∃ entries, List.Forall₂ Member.States members entries := by
  -- The induction is on the members, each of which was read with a name.
  induction leads with
  | nil => exact ⟨[], .nil⟩
  | @cons _ _ _ member _ step _ ih =>
    obtain ⟨name, spells, _⟩ := step
    obtain ⟨entries, states⟩ := ih
    exact ⟨(name, member.content.value) :: entries, .cons ⟨spells, rfl⟩ states⟩

/-- Members make a record when they are written for entries that give it. -/
theorem Record.takesMembers_iff_entries : record.TakesMembers room members value ↔
    ∃ entries, List.Forall₂ Member.States members entries ∧ ∃ values,
      record.fields.Give room (occurrences entries) values ∧ record.make values = value := by
  -- Members that are taken have names, which make entries of them.
  constructor
  · intro taken
    have ⟨_, _, leads, _⟩ := taken
    obtain ⟨entries, states⟩ := exists_entries leads
    exact ⟨entries, states, (Record.takesMembers_iff states).mp taken⟩
  · rintro ⟨entries, states, given⟩
    exact (Record.takesMembers_iff states).mpr given

end Entries

/-- A text is decoded to a record exactly when it is an object or a list that makes it. -/
theorem Record.decode_iff (inner : record.fields.Local) (distinct : record.fields.names.Nodup)
    (sound : record.fields.Sound) {value : β} : record.codec.decode text = .ok value ↔
      (∃ (document : ObjectDocument) (entries : List (String × List Char)), text = document.text ∧
        List.Forall₂ Member.States document.members entries ∧ ∃ values,
          record.fields.Give (nestingLimit - 1) (occurrences entries) values ∧
            record.make values = value) ∨
      ∃ document : ListDocument, text = document.text ∧ ∃ values,
        record.fields.Fit (nestingLimit - 1) (document.elements.map Element.value) values ∧
          record.make values = value := by
  -- What is decoded is a value, and a record is taken from values of two kinds only.
  constructor
  · intro decoded
    have whole : record.codec.Sound := Record.sound sound
    obtain ⟨before, after, written, rfl, isValue⟩ := whole.value_of_decode decoded
    have whole := Record.exact inner distinct
    have taken := (whole.decode_iff before after isValue).mp decoded
    obtain ⟨less, levels, object | list⟩ := (whole.takes isValue).mp taken
    · cases levels
      obtain ⟨gap, members, rfl, names, values, taken⟩ := object
      obtain ⟨entries, states, given⟩ := Record.takesMembers_iff_entries.mp taken
      exact .inl ⟨⟨before, gap, members, after, names, values⟩, entries, rfl, states, given⟩
    · cases levels
      obtain ⟨gap, elements, rfl, values, given⟩ := list
      exact .inr ⟨⟨before, gap, elements, after, values⟩, rfl, given⟩
  · rintro (⟨document, entries, rfl, states, given⟩ | ⟨document, rfl, given⟩)
    · exact (ObjectDocument.decode_iff inner distinct states).mpr given
    · exact (ListDocument.decode_iff inner distinct).mpr given

end Whole

end Scoreboard
