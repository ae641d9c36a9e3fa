import Scoreboard.Json.Value
import Scoreboard.Proofs.Json.Entries

/-! Values of any shape: every text of a value is read as the value that its parts make, and as no other. -/

namespace Scoreboard

section Reading

variable {room : Nat} {text rest behind : List Char} {value : Json}

/-- Blanks in front of a value are passed over. -/
theorem Json.read_blanks (gap : Blanks) (text : List Char) :
    Json.read room (gap.text ++ text) = Json.read room text := by
  unfold Json.read
  rw [gap.dropBlanks_append]

/-- The word `null` is read as itself. -/
theorem Json.read_null (rest : List Char) :
    Json.read room ("null".toList ++ rest) = .ok (.null, rest) := by
  unfold Json.read
  rfl

/-- The words of the flags are read as the flags. -/
theorem Json.read_flag (flag : Bool) (rest : List Char) :
    Json.read room (Codec.bool.write flag ++ rest) = .ok (.bool flag, rest) := by
  unfold Json.read
  cases flag <;> rfl

/-- Behind a quote a string is read. -/
theorem Json.read_string (text : List Char) : Json.read room ('"' :: text) =
    (readString text).map fun (value, rest) => (.string value, rest) := by
  unfold Json.read
  rfl

/-- Behind a bracket the elements of a list are read, with a level less to open. -/
theorem Json.read_bracket (text : List Char) : Json.read (room + 1) ('[' :: text) =
    (readElements (Json.read room) (text.length + 1) true text).map fun (elements, rest) =>
      (.list elements, rest) := by
  rw [Json.read]
  rfl

/-- One member of an object of any shape, put in front of those in front of it. -/
def Json.readMember (room : Nat) (members : List (String × Json)) (text : List Char) :
    Except DecodeError ((List (String × Json)) × List Char) := do
  let (name, text) ← readString text
  let (value, text) ← Json.read room (← readColon text)
  .ok ((name, value) :: members, text)

/-- Behind a brace the members of an object are read, with a level less to open. -/
theorem Json.read_brace (text : List Char) : Json.read (room + 1) ('{' :: text) =
    (readObject (Json.readMember room) [] text).map fun (members, rest) =>
      (.object members.reverse, rest) := by
  rw [Json.read]
  rfl

/-- Behind a minus sign or a digit a number literal is read. -/
theorem Json.read_number {c : Char} (opens : c = '-' ∨ c.isDigit = true) (text : List Char) :
    Json.read room (c :: text) =
      (readNumeral (c :: text)).map fun (number, rest) => (.ofNumeral number, rest) := by
  unfold Json.read
  rw [dropBlanks_cons (isJsonBlank_of_opens opens)]
  -- No other kind of value opens with a minus sign or a digit.
  split
  case h_1 same => cases same
  case h_8 same =>
    cases same
    exact if_pos opens
  all_goals
    rename_i same
    cases same
    exact absurd opens (by decide)

/-- A member has a name, spelled in it, and a value that is read from its text. -/
def Member.Holds (room : Nat) (member : Member) (entry : String × Json) : Prop :=
  Spells member.name entry.1.toList ∧ Codec.json.Takes room member.content.value entry.2

/-- The text of a value, by its kind. Inside a list and an object there is a level less to open. -/
def Json.Text (room : Nat) (text : List Char) : Json → Prop
  | .null => text = "null".toList
  | .bool flag => text = Codec.bool.write flag
  | .int value => ∃ number, readNumeral text = .ok (number, []) ∧ Json.ofNumeral number = .int value
  | .float x => ∃ number, readNumeral text = .ok (number, []) ∧ Json.ofNumeral number = .float x
  | .string chars => ∃ body, text = '"' :: (body ++ ['"']) ∧ Spells body chars.toList
  | .list values => ∃ less gap elements, room = less + 1 ∧ text = listText gap elements ∧
    (∀ element ∈ elements, ValueText element.value) ∧ Codec.json.TakeAll less elements values
  | .object entries => ∃ less gap members, room = less + 1 ∧ text = objectText gap members ∧
    (∀ member ∈ members, StringBody member.name) ∧
      (∀ member ∈ members, ValueText member.content.value) ∧
        List.Forall₂ (Member.Holds less) members entries

/-- A number literal is a text of the number that it stands for. -/
theorem Json.text_ofNumeral {literal : Numeral} (read : readNumeral text = .ok (literal, [])) :
    Json.Text room text (.ofNumeral literal) := by
  -- A literal stands for an integer or for a double.
  cases integer : literal.integer? with
  | none =>
    have kind : Json.ofNumeral literal = .float literal.toFloat := by rw [Json.ofNumeral, integer]
    rw [kind]
    exact ⟨literal, read, kind⟩
  | some value =>
    have kind : Json.ofNumeral literal = .int value := by rw [Json.ofNumeral, integer]
    rw [kind]
    exact ⟨literal, read, kind⟩

/-- The reader of values with so many levels of lists and objects to open, whatever it is told. -/
def Codec.jsonWithin (levels : Nat) : Codec Json where
  read _ := Json.read levels
  write := Json.write

/-- Members that are put in front of those in front of them end up the other way round. -/
theorem leads_entries_iff {members : List Member} {later : List (String × Json)} :
    Leads (fun entries (member : Member) later => ∃ entry, member.Holds room entry ∧
      later = entry :: entries) [] members later ↔
        ∃ entries, List.Forall₂ (Member.Holds room) members entries ∧ later = entries.reverse := by
  -- The general fact has entries in front already, and the induction is on the members.
  have general : ∀ {members : List Member} {start later : List (String × Json)},
      Leads (fun entries (member : Member) later => ∃ entry, member.Holds room entry ∧
        later = entry :: entries) start members later ↔
          ∃ entries, List.Forall₂ (Member.Holds room) members entries ∧
            later = entries.reverse ++ start := by
    intro members
    induction members with
    | nil => simp [leads_nil_iff]
    | cons member members ih =>
      intro start later
      simp only [leads_cons_iff, ih, List.forall₂_cons_left_iff]
      constructor
      · rintro ⟨_, ⟨entry, holds, rfl⟩, entries, others, rfl⟩
        exact ⟨entry :: entries, ⟨entry, entries, holds, others, rfl⟩, by simp⟩
      · rintro ⟨_, ⟨entry, entries, holds, others, rfl⟩, rfl⟩
        exact ⟨entry :: start, ⟨entry, holds, rfl⟩, entries, others, by simp⟩
  simpa using @general members [] later

section Containers

variable (inner : (Codec.jsonWithin room).Local) (gap : Blanks)

include inner

/-- A list is read from the texts of its elements. -/
theorem Json.read_listText {elements : List Element}
    (written : ∀ element ∈ elements, ValueText element.value) :
    Json.read (room + 1) (listText gap elements ++ rest) = .ok (value, behind) ↔
      behind = rest ∧ ∃ values, Codec.json.TakeAll room elements values ∧ value = .list values := by
  -- The elements are read by a codec, with a level less to open.
  have list := fun values behind => @Codec.read_listText _ (Codec.jsonWithin room) room rest behind
    values inner gap elements written
  rw [listText, List.cons_append, Json.read_bracket]
  constructor
  · intro read
    obtain ⟨⟨values, last⟩, inside, same⟩ := map_eq_ok_iff.mp read
    cases same
    obtain ⟨rfl, all⟩ := (list _ _).mp inside
    exact ⟨rfl, values, all, rfl⟩
  · rintro ⟨rfl, values, all, rfl⟩
    exact map_eq_ok_iff.mpr ⟨_, (list _ _).mpr ⟨rfl, all⟩, rfl⟩

/-- A member of an object is put in front of the others with its name and its value. -/
theorem Json.stepsAlong {members : List Member} (names : ∀ member ∈ members, StringBody member.name)
    (written : ∀ member ∈ members, ValueText member.content.value) :
    StepsAlong (Json.readMember room)
      (fun entries member later => ∃ entry, member.Holds room entry ∧ later = entry :: entries)
      members := by
  -- The name, the colon and the value are read one behind the other.
  intro own inside entries later rest behind ends
  have between : own.named ++ rest =
      own.name ++ '"' :: (own.between.text ++ ':' :: (own.content.text ++ rest)) := by
    simp [Member.named]
  have colon := readColon_behind own.between (own.content.text ++ rest)
  have content := fun value behind => @inner.reads_element _ _ own.content (written own inside)
    room rest behind ends value
  rw [between]
  constructor
  · intro read
    obtain ⟨⟨name, middle⟩, string, read⟩ := bind_eq_ok_iff.mp read
    obtain ⟨rfl, spells⟩ := (names own inside).readString_iff.mp string
    obtain ⟨_, start, read⟩ := bind_eq_ok_iff.mp read
    cases colon.symm.trans start
    obtain ⟨⟨value, last⟩, element, same⟩ := bind_eq_ok_iff.mp read
    cases same
    obtain ⟨rfl, taken⟩ := (content _ _).mp element
    exact ⟨rfl, (name, value), ⟨spells, taken⟩, rfl⟩
  · rintro ⟨rfl, ⟨name, value⟩, ⟨spells, taken⟩, rfl⟩
    exact bind_eq_ok_iff.mpr ⟨_, (names own inside).readString_iff.mpr ⟨rfl, spells⟩,
      bind_eq_ok_iff.mpr ⟨_, colon, bind_eq_ok_iff.mpr ⟨_, (content _ _).mpr ⟨rfl, taken⟩, rfl⟩⟩⟩

/-- An object is read from the texts of its members. -/
theorem Json.read_objectText {members : List Member}
    (names : ∀ member ∈ members, StringBody member.name)
    (written : ∀ member ∈ members, ValueText member.content.value) :
    Json.read (room + 1) (objectText gap members ++ rest) = .ok (value, behind) ↔
      behind = rest ∧ ∃ entries, List.Forall₂ (Member.Holds room) members entries ∧
        value = .object entries := by
  -- The members are gathered in front of each other, and turned round in the end.
  have object := fun later behind =>
    @readObject_iff _ _ _ members [] later rest behind (Json.stepsAlong inner names written) gap
  rw [objectText, List.cons_append, List.append_assoc, Json.read_brace]
  constructor
  · intro read
    obtain ⟨⟨entries, last⟩, inside, same⟩ := map_eq_ok_iff.mp read
    cases same
    obtain ⟨rfl, leads⟩ := (object _ _).mp inside
    obtain ⟨entries, holds, rfl⟩ := leads_entries_iff.mp leads
    exact ⟨rfl, entries, holds, by simp⟩
  · rintro ⟨rfl, entries, holds, rfl⟩
    have leads := leads_entries_iff.mpr ⟨entries, holds, rfl⟩
    exact map_eq_ok_iff.mpr ⟨_, (object _ _).mpr ⟨rfl, leads⟩, by simp⟩

end Containers

/-- A number literal is read as the number that it stands for. -/
theorem Json.read_numberText (number : NumberText text) (ends : Ends rest) :
    Json.read room (text ++ rest) = .ok (value, behind) ↔ behind = rest ∧
      ∃ literal, readNumeral text = .ok (literal, []) ∧ Json.ofNumeral literal = value := by
  -- Its first character is a minus sign or a digit, and sends the reader on to the literal.
  obtain ⟨c, others, rfl, opens⟩ := number.head
  rw [List.cons_append, Json.read_number opens]
  constructor
  · intro read
    obtain ⟨⟨literal, last⟩, inner, same⟩ := map_eq_ok_iff.mp read
    cases same
    obtain ⟨rfl, alone⟩ := (number.readNumeral_iff ends.stops).mp inner
    exact ⟨rfl, literal, alone, rfl⟩
  · rintro ⟨rfl, literal, alone, rfl⟩
    exact map_eq_ok_iff.mpr ⟨_, (number.readNumeral_iff ends.stops).mpr ⟨rfl, alone⟩, rfl⟩

/-- A string is read from between its quotes, as what is spelled there. -/
theorem Json.read_quoted {body : List Char} (string : StringBody body) :
    Json.read room ('"' :: (body ++ ['"']) ++ rest) = .ok (value, behind) ↔ behind = rest ∧
      ∃ chars : String, Spells body chars.toList ∧ value = .string chars := by
  -- What stands between the quotes is read as what it spells.
  rw [List.cons_append, Json.read_string, List.append_assoc]
  constructor
  · intro read
    obtain ⟨⟨chars, last⟩, inner, same⟩ := map_eq_ok_iff.mp read
    cases same
    obtain ⟨rfl, spells⟩ := string.readString_iff.mp inner
    exact ⟨rfl, chars, spells, rfl⟩
  · rintro ⟨rfl, chars, spells, rfl⟩
    exact map_eq_ok_iff.mpr ⟨_, string.readString_iff.mpr ⟨rfl, spells⟩, rfl⟩

section Whole

variable (inner : ∀ less, room = less + 1 → (Codec.jsonWithin less).Local)

include inner

/-- Whatever is read from the text of a value is a value with that text. -/
theorem Json.text_of_read (written : ValueText text) (ends : Ends rest)
    (read : Json.read room (text ++ rest) = .ok (value, behind)) :
    behind = rest ∧ Json.Text room text value := by
  -- One case for each kind of text. A list or an object needs a level to open.
  cases written with
  | null =>
    rw [Json.read_null] at read
    cases read
    exact ⟨rfl, rfl⟩
  | bool flag =>
    rw [Json.read_flag] at read
    cases read
    exact ⟨rfl, rfl⟩
  | number number =>
    obtain ⟨rfl, literal, alone, rfl⟩ := (Json.read_numberText number ends).mp read
    exact ⟨rfl, Json.text_ofNumeral alone⟩
  | @string body string =>
    obtain ⟨rfl, chars, spells, rfl⟩ := (Json.read_quoted string).mp read
    exact ⟨rfl, body, rfl, spells⟩
  | list gap elements values =>
    cases room with
    | zero => cases read
    | succ less =>
      obtain ⟨rfl, taken, all, rfl⟩ := (Json.read_listText (inner less rfl) gap values).mp read
      exact ⟨rfl, less, gap, elements, rfl, rfl, values, all⟩
  | object gap members names values =>
    cases room with
    | zero => cases read
    | succ less =>
      obtain ⟨rfl, entries, holds, rfl⟩ :=
        (Json.read_objectText (inner less rfl) gap names values).mp read
      exact ⟨rfl, less, gap, members, rfl, rfl, names, values, holds⟩

/-- A value is read from each of its texts. -/
theorem Json.read_of_text (written : ValueText text) (ends : Ends rest)
    (stands : Json.Text room text value) :
    Json.read room (text ++ rest) = .ok (value, rest) := by
  -- An integer and a double are both read from a literal, which the text is by its first character.
  have numeral : ∀ literal, readNumeral text = .ok (literal, []) →
      Json.read room (text ++ rest) = .ok (.ofNumeral literal, rest) := by
    intro literal alone
    obtain ⟨c, others, rfl, _⟩ := written.head
    have number := written.number_of_head (opens_of_readNumeral alone)
    exact (Json.read_numberText number ends).mpr ⟨rfl, literal, alone, rfl⟩
  cases value with
  | null =>
    obtain rfl : text = _ := stands
    exact Json.read_null rest
  | bool flag =>
    obtain rfl : text = _ := stands
    exact Json.read_flag flag rest
  | int value =>
    obtain ⟨literal, alone, kind⟩ := stands
    exact kind ▸ numeral literal alone
  | float x =>
    obtain ⟨literal, alone, kind⟩ := stands
    exact kind ▸ numeral literal alone
  | string chars =>
    obtain ⟨body, rfl, spells⟩ := stands
    exact (Json.read_quoted spells.stringBody).mpr ⟨rfl, chars, spells, rfl⟩
  | list values =>
    obtain ⟨less, gap, elements, rfl, rfl, written, all⟩ := stands
    exact (Json.read_listText (inner less rfl) gap written).mpr ⟨rfl, values, all, rfl⟩
  | object entries =>
    obtain ⟨less, gap, members, rfl, rfl, names, written, holds⟩ := stands
    exact (Json.read_objectText (inner less rfl) gap names written).mpr ⟨rfl, entries, holds, rfl⟩

/-- What stands next is read as a value exactly when it is a text of that value. -/
theorem Json.read_iff (written : ValueText text) (ends : Ends rest) :
    Json.read room (text ++ rest) = .ok (value, behind) ↔
      behind = rest ∧ Json.Text room text value := by
  -- The one direction goes by the kind of the text, and the other by the kind of the value.
  constructor
  · exact Json.text_of_read inner written ends
  · rintro ⟨rfl, stands⟩
    exact Json.read_of_text inner written ends stands

end Whole

/-- Whatever the levels are that may be opened, values are read locally. -/
theorem Codec.jsonWithin_local (levels : Nat) : (Codec.jsonWithin levels).Local := by
  -- The induction is on the levels: what stands inside a list or an object has a level less.
  induction levels with
  | zero =>
    have whole : (Codec.jsonWithin 0).Exact fun _ => Json.Text 0 :=
      .of_iff (fun gap _ => Json.read_blanks gap)
        fun written ends => Json.read_iff (by rintro _ ⟨⟩) written ends
    exact whole.toLocal
  | succ levels ih =>
    have whole : (Codec.jsonWithin (levels + 1)).Exact fun _ => Json.Text (levels + 1) :=
      .of_iff (fun gap _ => Json.read_blanks gap)
        fun written ends => Json.read_iff (by rintro _ ⟨⟩; exact ih) written ends
    exact whole.toLocal

/-- Values of any shape are read from their texts, and from no others. -/
theorem Codec.json_exact : Codec.json.Exact Json.Text :=
  .of_iff (fun gap _ => Json.read_blanks gap)
    fun written ends => Json.read_iff (fun less _ => Codec.jsonWithin_local less) written ends

end Reading

/-- A text of a value, which opens at most so many levels of lists and objects. -/
structure Json.Writes (levels : Nat) (text : List Char) (value : Json) : Prop where
  valueText : ValueText text
  taken : ∀ room, levels ≤ room → Codec.json.Takes room text value

/-- A member as it is written, without blanks. -/
def Member.written (name : String) (value : List Char) : Member :=
  ⟨.none, name.toList.flatMap escapeChar, .none, .none, value, .none⟩

/-- An element as it is written, without blanks. -/
def Element.written (value : List Char) : Element :=
  ⟨.none, value, .none⟩

section Writing

variable {levels : Nat} {text : List Char} {value : Json}

/-- A text that opens few levels opens no more than many. -/
theorem Json.Writes.deeper (writes : Json.Writes levels text value) {deeper : Nat}
    (order : levels ≤ deeper) : Json.Writes deeper text value :=
  ⟨writes.valueText, fun room enough => writes.taken room (Nat.le_trans order enough)⟩

/-- A text of a value is decoded to it. -/
theorem Json.Writes.decode (writes : Json.Writes levels text value)
    (shallow : levels ≤ nestingLimit) : Codec.json.decode text = .ok value := by
  have decoded := (Codec.json_exact.decode_iff .none .none writes.valueText).mpr
    (writes.taken nestingLimit shallow)
  simpa [Blanks.none] using decoded

/-- What its texts are for each room is what a value is written as. -/
theorem Json.Writes.of_text (written : ValueText text)
    (stands : ∀ room, levels ≤ room → Json.Text room text value) : Json.Writes levels text value :=
  ⟨written, fun room enough => (Codec.json_exact.takes written).mpr (stands room enough)⟩

/-- The word `null` is a text of itself. -/
theorem Json.writes_null : Json.Writes 0 "null".toList .null :=
  .of_text .null fun _ _ => rfl

/-- A string between quotes is a text of itself as a value. -/
theorem Json.writes_string (chars : String) : Json.Writes 0 (quote chars.toList) (.string chars) :=
  have spells := Spells.escaped chars.toList
  .of_text (.string spells.stringBody) fun _ _ => ⟨_, rfl, spells⟩

/-- A number literal is a text of the number that it stands for, at no depth. -/
theorem Json.writes_numeral {literal : Numeral} (read : readNumeral text = .ok (literal, [])) :
    Json.Writes 0 text (.ofNumeral literal) := by
  obtain ⟨number, written, same⟩ := numberText_of_readNumeral read
  rw [List.append_nil] at same
  exact .of_text (.number (same ▸ written)) fun _ _ => Json.text_ofNumeral read

/-- An integer of 64 bits, with a sign or without one. -/
theorem Json.writes_int {number : Int} (low : -0x8000000000000000 ≤ number)
    (high : number ≤ 0xFFFFFFFFFFFFFFFF) : Json.Writes 0 (intDigits number) (.int number) := by
  -- The literal stands for an integer, and for no double.
  have nothing : Stops [] := nofun
  have read := readNumeral_intDigits nothing low high
  rw [List.append_nil] at read
  have writes := Json.writes_numeral read
  rwa [Json.ofNumeral, Numeral.integer?_ofInt low high] at writes

/-- A list of values is written as their texts between brackets. -/
theorem Json.writes_list {α : Type} {items : List α} {text : α → List Char} {value : α → Json}
    (writes : ∀ item ∈ items, Json.Writes levels (text item) (value item)) :
    Json.Writes (levels + 1) ('[' :: (commaSeparated (items.map text) ++ [']']))
      (.list (items.map value)) := by
  -- The elements are written without blanks, and each is taken with a level less.
  have same : listText .none (items.map fun item => Element.written (text item)) =
      '[' :: (commaSeparated (items.map text) ++ [']']) := by
    cases items <;> simp [listText, enclosed, Element.written, Element.text, Blanks.none,
      commaSeparated, Function.comp_def]
  have written : ∀ element ∈ items.map (fun item => Element.written (text item)),
      ValueText element.value :=
    List.forall_mem_map.mpr fun item member => (writes item member).valueText
  rw [← same]
  refine .of_text (.list .none _ written) fun room enough => ?_
  obtain ⟨less, rfl⟩ := Nat.exists_eq_add_of_le' enough
  refine ⟨less + levels, .none, _, rfl, rfl, written, ?_⟩
  rw [Codec.TakeAll, List.forall₂_map_left_iff, List.forall₂_map_right_iff, List.forall₂_same]
  exact fun item member => (writes item member).taken _ (by omega)

/-- An object is written as its members between braces, each its name and the text of its value. -/
theorem Json.writes_object (members : List (String × List Char × Json))
    (writes : ∀ member ∈ members, Json.Writes levels member.2.1 member.2.2) :
    Json.Writes (levels + 1) (writeObject (members.map fun member => writeMember member.1 member.2.1))
      (.object (members.map fun member => (member.1, member.2.2))) := by
  -- The members are written without blanks, and each value is taken with a level less.
  have same : objectText .none (members.map fun member => Member.written member.1 member.2.1) =
      writeObject (members.map fun member => writeMember member.1 member.2.1) := by
    cases members <;> simp [objectText, writeObject, enclosed, Member.written, Member.text,
      Member.named, Element.text, Blanks.none, commaSeparated, Function.comp_def, writeMember, quote]
  have names : ∀ member ∈ members.map (fun member => Member.written member.1 member.2.1),
      StringBody member.name :=
    List.forall_mem_map.mpr fun member _ => (Spells.escaped member.1.toList).stringBody
  have written : ∀ member ∈ members.map (fun member => Member.written member.1 member.2.1),
      ValueText member.content.value :=
    List.forall_mem_map.mpr fun member inside => (writes member inside).valueText
  rw [← same]
  refine .of_text (.object .none _ names written) fun room enough => ?_
  obtain ⟨less, rfl⟩ := Nat.exists_eq_add_of_le' enough
  refine ⟨less + levels, .none, _, rfl, rfl, names, written, ?_⟩
  rw [List.forall₂_map_left_iff, List.forall₂_map_right_iff, List.forall₂_same]
  exact fun member inside => ⟨Spells.escaped _, (writes member inside).taken _ (by omega)⟩

end Writing

end Scoreboard
