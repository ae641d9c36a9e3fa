import Mathlib.Data.List.Forall2
import Scoreboard.Proofs.Json.Literals
import Scoreboard.Proofs.Json.Spelling

/-! Locality: a codec reads the value that stands next, and looks at nothing in front of it or behind it. -/

namespace Scoreboard

/-- The value that a codec reads from a text that is this value and nothing else. -/
def Codec.Takes {α : Type} (codec : Codec α) (room : Nat) (text : List Char) (value : α) : Prop :=
  codec.read room text = .ok (value, [])

/-- Blanks in front of a value make no difference, and neither does what follows the value. -/
structure Codec.Local {α : Type} (codec : Codec α) : Prop where
  blanks : ∀ (gap : Blanks) room text, codec.read room (gap.text ++ text) = codec.read room text
  reads : ∀ {room text rest value behind}, ValueText text → Ends rest →
    (codec.read room (text ++ rest) = .ok (value, behind) ↔
      behind = rest ∧ codec.Takes room text value)

/-- A local codec that takes a value from the texts said, and from no other ones. -/
structure Codec.Exact {α : Type} (codec : Codec α) (Text : Nat → List Char → α → Prop) : Prop
    extends codec.Local where
  takes : ∀ {room text value}, ValueText text →
    (codec.Takes room text value ↔ Text room text value)

section Whole

variable {α : Type} {codec : Codec α} {Text : Nat → List Char → α → Prop}

/-- It is enough that the texts said are read wherever they stand. -/
theorem Codec.Exact.of_iff
    (blanks : ∀ (gap : Blanks) room text,
      codec.read room (gap.text ++ text) = codec.read room text)
    (reads : ∀ {room text rest value behind}, ValueText text → Ends rest →
      (codec.read room (text ++ rest) = .ok (value, behind) ↔
        behind = rest ∧ Text room text value)) :
    codec.Exact Text := by
  -- What is read in front of nothing is what the text alone is read as.
  have alone : ∀ {room text value}, ValueText text →
      (codec.Takes room text value ↔ Text room text value) := by
    intro room text value written
    have whole := @reads room text [] value [] written ends_nil
    rw [List.append_nil] at whole
    simpa [Codec.Takes] using whole
  refine ⟨⟨blanks, fun written ends => ?_⟩, fun written => alone written⟩
  rw [alone written]
  exact reads written ends

/-- A document is decoded to the value that its text is, whatever blanks are around it. -/
theorem Codec.Local.decode_iff (inner : codec.Local) (before after : Blanks) {text : List Char}
    (written : ValueText text) {value : α} :
    codec.decode (before.text ++ (text ++ after.text)) = .ok value ↔
      codec.Takes nestingLimit text value := by
  -- The blanks behind the value are left, and a whole text may end with blanks.
  have read : ∀ {value behind}, codec.read nestingLimit (before.text ++ (text ++ after.text)) =
      .ok (value, behind) ↔ behind = after.text ∧ codec.Takes nestingLimit text value := by
    intro value behind
    rw [inner.blanks]
    exact inner.reads written (ends_blanks after)
  unfold Codec.decode
  constructor
  · intro decoded
    obtain ⟨⟨first, behind⟩, whole, judged⟩ := bind_eq_ok_iff.mp decoded
    obtain ⟨rfl, taken⟩ := read.mp whole
    simp only [after.dropBlanks_text, if_true] at judged
    cases judged
    exact taken
  · intro taken
    refine bind_eq_ok_iff.mpr ⟨_, read.mpr ⟨rfl, taken⟩, ?_⟩
    exact if_pos after.dropBlanks_text

/-- An element is read from its own text, up to the blanks behind it. -/
theorem Codec.Local.reads_element (inner : codec.Local) {element : Element}
    (written : ValueText element.value) {room : Nat} {rest behind : List Char} (ends : Ends rest)
    {value : α} : codec.read room (element.text ++ rest) = .ok (value, behind) ↔
      behind = element.after.text ++ rest ∧ codec.Takes room element.value value := by
  rw [Element.text, List.append_assoc, inner.blanks, List.append_assoc]
  exact inner.reads written (ends.append element.after)

end Whole

section Numbers

variable {low high value : Int} {c : Char} {text rest behind : List Char}

/-- Blanks in front of a number are passed over. -/
theorem readWithin_blanks (gap : Blanks) (text : List Char) :
    readWithin low high (gap.text ++ text) = readWithin low high text := by
  unfold readWithin readNumber
  rw [gap.dropBlanks_append]

/-- What is read as an integer starts like a number. -/
theorem opens_of_readWithin (dark : isJsonBlank c = false)
    (read : readWithin low high (c :: text) = .ok (value, behind)) :
    c = '-' ∨ c.isDigit = true := by
  obtain ⟨literal, inner, _⟩ := bind_eq_ok_iff.mp read
  rw [readNumber, dropBlanks_cons dark] at inner
  -- Whatever else starts there is refused for its kind.
  by_contra other
  simp only [if_neg other] at inner
  cases inner

/-- An integer within bounds is read from its own text, and from no other value. -/
theorem ValueText.readWithin_iff (written : ValueText text) (ends : Ends rest)
    (low64 : -0x8000000000000000 ≤ low) (high64 : high ≤ 0xFFFFFFFFFFFFFFFF) :
    readWithin low high (text ++ rest) = .ok (value, behind) ↔
      behind = rest ∧ text = intDigits value ∧ low ≤ value ∧ value ≤ high := by
  constructor
  · intro read
    -- Only a number starts like one, so the value is a number literal.
    obtain ⟨c, others, rfl, dark, _⟩ := written.head
    have number := written.number_of_head (opens_of_readWithin dark read)
    exact (number.readWithin_iff ends.stops low64 high64).mp read
  · rintro ⟨rfl, rfl, above, below⟩
    exact readWithin_intDigits ends.stops above below low64 high64

/-- An integer of 64 bits is read from its digits. -/
theorem Codec.int64_exact : Codec.int64.Exact fun _ text value => text = intDigits value.toInt := by
  -- Blanks in front are dropped, and the digits are those of the number read.
  refine .of_iff (fun gap room text => ?_) fun {room text rest value behind} written ends => ?_
  · exact congrArg (Except.map _) (readWithin_blanks gap text)
  · -- The bounds are those of 64 bits with a sign, within which nothing is cut off.
    have number := fun value behind => @ValueText.readWithin_iff (-0x8000000000000000)
      0x7FFFFFFFFFFFFFFF value text rest behind written ends (by decide) (by decide)
    refine map_eq_ok_iff.trans ?_
    constructor
    · rintro ⟨⟨integer, behind⟩, read, same⟩
      cases same
      obtain ⟨rfl, digits, above, below⟩ := (number _ _).mp read
      refine ⟨rfl, ?_⟩
      rw [digits, Int64.toInt_ofInt_of_le above (by omega)]
    · rintro ⟨rfl, digits⟩
      have low := Int64.le_toInt value
      have high := Int64.toInt_lt value
      exact ⟨_, (number _ _).mpr ⟨rfl, digits, by omega, by omega⟩,
        congrArg (fun value => (value, behind)) value.ofInt_toInt⟩

/-- An integer of 64 bits without a sign is read from its digits. -/
theorem Codec.uint64_exact : Codec.uint64.Exact fun _ text value =>
    text = natDigits value.toNat := by
  -- A number that is not below zero is a natural one.
  refine .of_iff (fun gap room text => ?_) fun {room text rest value behind} written ends => ?_
  · exact congrArg (Except.map _) (readWithin_blanks gap text)
  · have number := fun value behind => @ValueText.readWithin_iff 0 0xFFFFFFFFFFFFFFFF value text
      rest behind written ends (by decide) (by decide)
    refine map_eq_ok_iff.trans ?_
    constructor
    · rintro ⟨⟨integer, behind⟩, read, same⟩
      cases same
      obtain ⟨rfl, digits, above, below⟩ := (number _ _).mp read
      obtain ⟨natural, rfl⟩ := Int.eq_ofNat_of_zero_le above
      refine ⟨rfl, ?_⟩
      have small : natural < UInt64.size := Int.ofNat_lt.mp (Int.lt_of_le_of_lt below (by decide))
      rw [digits, Int.toNat_natCast, UInt64.toNat_ofNat_of_lt' small]
      rfl
    · rintro ⟨rfl, digits⟩
      have high := value.toNat_lt
      exact ⟨_, (number value.toNat behind).mpr ⟨rfl, digits, by omega, by omega⟩,
        congrArg (fun value => (value, behind)) value.ofNat_toNat⟩

end Numbers

section Flags

/-- A truth value is read from its word. -/
theorem Codec.bool_exact : Codec.bool.Exact fun _ text value => text = Codec.bool.write value := by
  refine .of_iff (fun gap room text => ?_) fun {room text rest value behind} written ends => ?_
  · simp only [Codec.bool, gap.dropBlanks_append]
  · constructor
    · intro read
      obtain ⟨c, others, rfl, opens⟩ := written.head
      simp only [Codec.bool, List.cons_append, dropBlanks_cons opens.1] at read
      -- Only one word starts with each of the two letters.
      split at read
      · rename_i none
        cases none
      · rename_i same
        cases same
        obtain rfl : others = "rue".toList := written.continues
        cases read
        exact ⟨rfl, rfl⟩
      · rename_i same
        cases same
        obtain rfl : others = "alse".toList := written.continues
        cases read
        exact ⟨rfl, rfl⟩
      · cases read
    · rintro ⟨rfl, rfl⟩
      cases value <;> rfl

end Flags

section Strings

/-- A string is read from what spells it between quotes. -/
theorem Codec.string_exact : Codec.string.Exact fun _ text value =>
    ∃ body, text = '"' :: (body ++ ['"']) ∧ Spells body value.toList := by
  refine .of_iff (fun gap room text => ?_) fun {room text rest value behind} written ends => ?_
  · simp only [Codec.string, gap.dropBlanks_append]
  · constructor
    · intro read
      obtain ⟨c, others, rfl, opens⟩ := written.head
      simp only [Codec.string, List.cons_append, dropBlanks_cons opens.1] at read
      -- Only a quote opens a string, and the next one without a backslash ends it.
      split at read
      · cases read
      · rename_i same
        cases same
        obtain ⟨body, string, rfl⟩ := written.continues
        rw [List.append_assoc, List.singleton_append] at read
        obtain ⟨rfl, spells⟩ := string.readString_iff.mp read
        exact ⟨rfl, body, rfl, spells⟩
      · cases read
    · rintro ⟨rfl, body, rfl, spells⟩
      show readString (body ++ ['"'] ++ behind) = _
      rw [List.append_assoc]
      exact spells.stringBody.readString_iff.mpr ⟨rfl, spells⟩

end Strings

section Options

variable {α : Type} {codec : Codec α}

/-- What does not start like `null` is left to the codec of the value. -/
theorem Codec.read_optional {room : Nat} {c : Char} {rest : List Char}
    (visible : isJsonBlank c = false) (other : c ≠ 'n') :
    (Codec.optional codec).read room (c :: rest) =
      (codec.read room (c :: rest)).map fun (value, rest) => (some value, rest) := by
  -- The first character tells whether `null` is meant.
  simp only [Codec.optional, dropBlanks_cons visible]
  split
  · rename_i none
    cases none
  · rename_i same
    cases same
    exact absurd rfl other
  · rfl

/-- What may be `null` is `null`, or else a value that its own codec takes. -/
theorem Codec.Local.optional_exact (inner : codec.Local)
    (refuses : ∀ {room value}, ¬ codec.Takes room "null".toList value) :
    (Codec.optional codec).Exact fun room text value =>
      match value with
      | none => text = "null".toList
      | some value => codec.Takes room text value := by
  -- Only `null` starts with its letter, and the codec of the value takes no such text.
  refine .of_iff (fun gap room text => ?_)
    fun {room text rest value behind} written ends => ?_
  · simp only [Codec.optional, gap.dropBlanks_append]
  · obtain ⟨c, others, rfl, opens⟩ := written.head
    by_cases null : c = 'n'
    · -- No other value starts with the letter that `null` starts with.
      subst null
      obtain rfl : others = "ull".toList := written.continues
      have read : (Codec.optional codec).read room ('n' :: "ull".toList ++ rest) =
          .ok (none, rest) := rfl
      rw [read]
      cases value with
      | none => simp [eq_comm]
      | some value =>
        constructor
        · exact fun same => by cases same
        · exact fun taken => absurd taken.2 refuses
    · -- Every other value is left to the codec inside.
      rw [List.cons_append, Codec.read_optional opens.1 null]
      refine map_eq_ok_iff.trans ?_
      constructor
      · rintro ⟨⟨inside, behind⟩, own, same⟩
        cases same
        exact (inner.reads written ends).mp own
      · rintro ⟨rfl, taken⟩
        cases value with
        | none => exact absurd (List.cons.inj taken).1 null
        | some value => exact ⟨_, (inner.reads written ends).mpr ⟨rfl, taken⟩, rfl⟩

end Options

section Lists

variable {α : Type} {codec : Codec α} {room turns : Nat} {first : Bool}
  {text rest behind : List Char} {values : List α}

/-- Blanks in front of an element are passed over. -/
theorem nextElement_blanks (gap : Blanks) (text : List Char) :
    nextElement first (gap.text ++ text) = nextElement first text := by
  unfold nextElement
  rw [gap.dropBlanks_append]

/-- Blanks in front of a closing bracket are passed over. -/
theorem closeList_blanks (gap : Blanks) (text : List Char) :
    closeList (gap.text ++ text) = closeList text := by
  unfold closeList
  rw [gap.dropBlanks_append]

/-- Blanks in front of the elements of a list are passed over. -/
theorem readElements_blanks (gap : Blanks) (text : List Char) :
    readElements (codec.read room) turns first (gap.text ++ text) =
      readElements (codec.read room) turns first text := by
  cases turns with
  | zero => rfl
  | succ turns => simp only [readElements, nextElement_blanks, closeList_blanks]

/-- The blanks in front of an element are dropped, and the element is what comes next. -/
theorem Element.dropBlanks_append {element : Element} (written : ValueText element.value)
    (rest : List Char) :
    dropBlanks (element.text ++ rest) = element.value ++ (element.after.text ++ rest) := by
  rw [Element.text, List.append_assoc, element.before.dropBlanks_append, List.append_assoc,
    written.dropBlanks_append]

/-- The first element of a list is found behind the blanks in front of it. -/
theorem Element.nextElement_first {element : Element} (written : ValueText element.value)
    (rest : List Char) : nextElement true (element.text ++ rest) =
      .ok (some (element.value ++ (element.after.text ++ rest))) := by
  -- The value starts with a character that opens one.
  have found := element.dropBlanks_append written rest
  obtain ⟨c, others, value, opens⟩ := written.head
  rw [value] at found ⊢
  exact Scoreboard.nextElement_first opens found

/-- A later element of a list is found behind its comma and the blanks in front of it. -/
theorem Element.nextElement_comma {element : Element} (written : ValueText element.value)
    (rest : List Char) : nextElement false (',' :: (element.text ++ rest)) =
      .ok (some (element.value ++ (element.after.text ++ rest))) := by
  -- The value starts with a character that opens one.
  have found := element.dropBlanks_append written rest
  obtain ⟨c, others, value, opens⟩ := written.head
  rw [value] at found ⊢
  exact Scoreboard.nextElement_comma opens found

/-- The elements take the values, each its own. -/
def Codec.TakeAll (codec : Codec α) (room : Nat) : List Element → List α → Prop :=
  List.Forall₂ fun element => codec.Takes room element.value

/-- At the closing bracket no more elements are read. -/
theorem readElements_close :
    readElements (codec.read room) (turns + 1) first (']' :: rest) = .ok (values, behind) ↔
      behind = rest ∧ codec.TakeAll room [] values := by
  have read : readElements (codec.read room) (turns + 1) first (']' :: rest) = .ok ([], rest) := rfl
  rw [read, Codec.TakeAll, List.forall₂_nil_left_iff, Except.ok.injEq, Prod.mk.injEq, and_comm]
  exact and_congr eq_comm eq_comm

/-- One turn of a list that goes on: its next element, and then the others. -/
theorem readElements_next {read : List Char → Except DecodeError (α × List Char)}
    {content : List Char} (next : nextElement first text = .ok (some content)) :
    readElements read (turns + 1) first text =
      (read content >>= fun (value, text) => readElements read turns false text >>=
        fun (values, text) => .ok (value :: values, text)) := by
  rw [readElements, next]
  rfl

/-- An element is read from its own text, and the others from what stands behind it. -/
theorem readElements_element {element : Element} {elements : List Element} {between : List Char}
    (inner : codec.Local) (written : ValueText element.value) (ends : Ends between)
    (next : nextElement first text =
      .ok (some (element.value ++ (element.after.text ++ between))))
    (others : ∀ values, readElements (codec.read room) turns false between = .ok (values, behind) ↔
      behind = rest ∧ codec.TakeAll room elements values) :
    readElements (codec.read room) (turns + 1) first text = .ok (values, behind) ↔
      behind = rest ∧ codec.TakeAll room (element :: elements) values := by
  have own := fun value behind => @inner.reads room element.value (element.after.text ++ between)
    value behind written (ends.append element.after)
  -- The blanks behind the element are dropped in front of the comma or the bracket.
  rw [readElements_next next, Codec.TakeAll, List.forall₂_cons_left_iff]
  constructor
  · intro read
    obtain ⟨⟨value, middle⟩, first, read⟩ := bind_eq_ok_iff.mp read
    obtain ⟨⟨values, last⟩, inside, same⟩ := bind_eq_ok_iff.mp read
    obtain ⟨rfl, taken⟩ := (own _ _).mp first
    cases same
    obtain ⟨rfl, all⟩ := (others _).mp ((readElements_blanks _ _).symm.trans inside)
    exact ⟨rfl, value, values, taken, all, rfl⟩
  · rintro ⟨rfl, value, values, taken, all, rfl⟩
    exact bind_eq_ok_iff.mpr ⟨_, (own _ _).mpr ⟨rfl, taken⟩, bind_eq_ok_iff.mpr
      ⟨_, (readElements_blanks _ _).trans ((others _).mpr ⟨rfl, all⟩), rfl⟩⟩

/-- The elements behind the first one are read one by one. -/
theorem readElements_iff (inner : codec.Local) {elements : List Element}
    (written : ∀ element ∈ elements, ValueText element.value) (more : elements.length < turns) :
    readElements (codec.read room) turns false
      ((elements.map Element.text).flatMap (',' :: ·) ++ ']' :: rest) = .ok (values, behind) ↔
        behind = rest ∧ codec.TakeAll room elements values := by
  -- Each element takes one turn, and the bracket takes the last one.
  induction elements generalizing turns values with
  | nil =>
    obtain ⟨turns, rfl⟩ := Nat.exists_eq_add_of_lt more
    exact readElements_close
  | cons element elements ih =>
    obtain ⟨own, others⟩ := List.forall_mem_cons.mp written
    obtain ⟨turns, rfl⟩ := Nat.exists_eq_add_of_lt more
    rw [List.map_cons, commas_cons_append]
    exact readElements_element inner own (ends_parts _ (ends_cons (.inr (.inl rfl))))
      (element.nextElement_comma own _) fun _ => ih others (by simp; omega)

/-- The elements between two brackets are read one by one. -/
theorem readElements_enclosed (inner : codec.Local) (gap : Blanks) {elements : List Element}
    (written : ∀ element ∈ elements, ValueText element.value) (more : elements.length < turns) :
    readElements (codec.read room) turns true
      (enclosed gap (elements.map Element.text) ++ ']' :: rest) = .ok (values, behind) ↔
        behind = rest ∧ codec.TakeAll room elements values := by
  obtain ⟨turns, rfl⟩ := Nat.exists_eq_add_of_lt more
  -- No comma stands in front of the first element.
  cases elements with
  | nil =>
    rw [List.map_nil, enclosed_nil, readElements_blanks]
    exact readElements_close
  | cons element elements =>
    obtain ⟨own, others⟩ := List.forall_mem_cons.mp written
    rw [List.map_cons, enclosed_cons, List.append_assoc]
    exact readElements_element inner own (ends_parts _ (ends_cons (.inr (.inl rfl))))
      (element.nextElement_first own _) fun _ => readElements_iff inner others (by simp; omega)

/-- There are no more parts between brackets than characters, one apart. -/
theorem length_le_enclosed (gap : Blanks) (parts : List (List Char)) :
    parts.length ≤ (enclosed gap parts).length + 1 := by
  cases parts with
  | nil => exact Nat.zero_le _
  | cons part parts => exact length_le_commaSeparated (part :: parts)

/-- A list is read from the texts of its elements, in front of anything. -/
theorem Codec.read_listText (inner : codec.Local) (gap : Blanks) {elements : List Element}
    (written : ∀ element ∈ elements, ValueText element.value) :
    (Codec.list codec).read (room + 1) (listText gap elements ++ rest) = .ok (values, behind) ↔
      behind = rest ∧ codec.TakeAll room elements values := by
  have turns := length_le_enclosed gap (elements.map Element.text)
  show readElements (codec.read room) ((enclosed gap (elements.map Element.text) ++ [']'] ++
    rest).length + 1) true (enclosed gap (elements.map Element.text) ++ [']'] ++ rest) = _ ↔ _
  rw [List.append_assoc, List.singleton_append]
  refine readElements_enclosed inner gap written ?_
  -- The text has room for all elements.
  rw [List.length_map] at turns
  rw [List.length_append, List.length_cons]
  omega

/-- A list is read from the texts of its elements, with one level less to open inside. -/
theorem Codec.Local.list_exact (inner : codec.Local) :
    (Codec.list codec).Exact fun room text values =>
      ∃ less gap elements, room = less + 1 ∧ text = listText gap elements ∧
        (∀ element ∈ elements, ValueText element.value) ∧ codec.TakeAll less elements values := by
  -- A value that opens with another character than a bracket is refused.
  refine .of_iff (fun gap room text => ?_)
    fun {room text rest values behind} written ends => ?_
  · simp only [Codec.list, gap.dropBlanks_append]
  · constructor
    · intro read
      obtain ⟨c, others, rfl, opens⟩ := written.head
      by_cases bracket : c = '['
      · subst bracket
        obtain ⟨gap, elements, values, rfl⟩ := written.continues
        cases room with
        | zero => cases read
        | succ less =>
          obtain ⟨rfl, all⟩ := (Codec.read_listText inner gap values).mp read
          exact ⟨rfl, less, gap, elements, rfl, rfl, values, all⟩
      · -- Everything but a list is refused.
        simp only [Codec.list, List.cons_append, dropBlanks_cons opens.1] at read
        split at read
        · cases read
        · rename_i same
          cases same
          exact absurd rfl bracket
        · cases read
    · rintro ⟨rfl, less, gap, elements, rfl, rfl, values, all⟩
      exact (Codec.read_listText inner gap values).mpr ⟨rfl, all⟩

end Lists

end Scoreboard
