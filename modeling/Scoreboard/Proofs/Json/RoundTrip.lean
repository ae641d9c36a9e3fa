import Scoreboard.Proofs.Json.Numerals
import Scoreboard.Json.Record

/-! Round trips: what a codec writes, it reads back, wherever it stands in a document. -/

namespace Scoreboard

/-- A character that a value may start with: no blank, and none that may follow a value. -/
def Opens (c : Char) : Prop :=
  isJsonBlank c = false ∧ c ≠ ',' ∧ c ≠ ']' ∧ c ≠ '}'

instance (c : Char) : Decidable (Opens c) :=
  inferInstanceAs (Decidable (_ ∧ _))

/-- A value comes back from its text, which opens so many levels of lists and objects. -/
structure Codec.Returns {α : Type} (codec : Codec α) (depth : Nat) (value : α) : Prop where
  starts : ∃ c text, codec.write value = c :: text ∧ Opens c
  reads : ∀ room rest, depth ≤ room → Follows rest →
    codec.read room (codec.write value ++ rest) = .ok (value, rest)

section Whole

variable {α : Type} {codec : Codec α} {depth : Nat} {value : α}

/-- A value comes back where there is more room as well. -/
theorem Codec.Returns.deeper (returns : codec.Returns depth value) {deeper : Nat}
    (order : depth ≤ deeper) : codec.Returns deeper value :=
  ⟨returns.starts, fun room rest enough => returns.reads room rest (Nat.le_trans order enough)⟩

/-- A value that comes back inside documents is also what its text alone is decoded to. -/
theorem Codec.Returns.ofText (returns : codec.Returns depth value)
    (shallow : depth ≤ nestingLimit) : codec.ofText (codec.toText value) = .ok value := by
  -- Alone, the text of the value has nothing behind it.
  have read := returns.reads nestingLimit [] shallow .nothing
  rw [List.append_nil] at read
  rw [Codec.ofText, Codec.toText, String.toList_ofList, Codec.decode, read]
  rfl

end Whole

section Numbers

/-- Every text of an integer opens a value. -/
theorem opens_of_number {c : Char} (opens : c = '-' ∨ c.isDigit = true) : Opens c := by
  refine ⟨isJsonBlank_of_opens opens, ?_, ?_, ?_⟩ <;> rintro rfl <;> revert opens <;> decide

/-- A number of 64 bits comes back from its text. -/
theorem Codec.int64_returns (value : Int64) : Codec.int64.Returns 0 value where
  -- The bounds are those of 64 bits, so the number lies within them.
  starts := by
    obtain ⟨c, text, digits, opens⟩ := intDigits_eq_cons value.toInt
    exact ⟨c, text, digits, opens_of_number opens⟩
  reads room rest _ follows := by
    have low := Int64.le_toInt value
    have high := Int64.toInt_lt value
    have read : readWithin (-0x8000000000000000) 0x7FFFFFFFFFFFFFFF
        (intDigits value.toInt ++ rest) = .ok (value.toInt, rest) :=
      readWithin_intDigits follows.stops (by omega) (by omega) (by decide) (by decide)
    show (readWithin _ _ (intDigits value.toInt ++ rest)).map _ = _
    rw [read]
    exact congrArg (fun value => Except.ok (value, rest)) value.ofInt_toInt

/-- A number of 32 bits comes back from its text. -/
theorem Codec.uint32_returns (value : UInt32) : Codec.uint32.Returns 0 value where
  starts := by
    obtain ⟨c, text, digits, opens⟩ := intDigits_eq_cons value.toNat
    exact ⟨c, text, digits, opens_of_number opens⟩
  reads room rest _ follows := by
    have bound := value.toNat_lt
    have read : readWithin 0 0xFFFFFFFF (intDigits value.toNat ++ rest) =
        .ok ((value.toNat : Int), rest) :=
      readWithin_intDigits follows.stops (by omega) (by omega) (by decide) (by decide)
    -- The digits of a number without a sign are those of an integer that is not negative.
    show (readWithin _ _ (intDigits value.toNat ++ rest)).map _ = _
    rw [read]
    exact congrArg (fun value => Except.ok (value, rest)) (UInt32.ofNat_toNat)

end Numbers

section Texts

/-- A hexadecimal digit is read back as its value. -/
theorem hexValue?_hexDigit : ∀ digit < 16, hexValue? (hexDigit digit) = some digit := by
  decide

/-- A control is read back from its hexadecimal escape. -/
theorem readChars_control {c : Char} (control : c < ' ') (text : List Char) :
    readChars .plain ('\\' :: 'u' :: '0' :: '0' :: hexDigit (c.toNat / 16) ::
      hexDigit (c.toNat % 16) :: text) =
      (readChars .plain text).map fun (chars, rest) => (c :: chars, rest) := by
  have small : c.toNat < 32 := control
  have whole : 16 * (c.toNat / 16) + c.toNat % 16 = c.toNat := Nat.div_add_mod c.toNat 16
  -- The first digits are zero, so the digits of the character spell the whole unit.
  have zero : hexValue? '0' = some 0 := by decide
  have trailing : isTrailingHalf c.toNat = false := by
    have below : ¬ 0xDC00 ≤ c.toNat := by omega
    simp [isTrailingHalf, below]
  have leading : isLeadingHalf c.toNat = false := by
    have below : ¬ 0xD800 ≤ c.toNat := by omega
    simp [isLeadingHalf, below]
  simp [readChars, zero, hexValue?_hexDigit (c.toNat / 16) (by omega),
    hexValue?_hexDigit (c.toNat % 16) (by omega), whole, trailing, leading, Char.ofNat_toNat]

/-- A character is read back from the way it stands between quotes. -/
theorem readChars_escapeChar (c : Char) (text : List Char) :
    readChars .plain (escapeChar c ++ text) =
      (readChars .plain text).map fun (chars, rest) => (c :: chars, rest) := by
  unfold escapeChar
  -- Seven characters have a letter of their own, and the others are controls or stand as they are.
  split
  case h_8 notQuote notBackslash _ _ _ _ _ =>
    split
    · rename_i control
      exact readChars_control control text
    · rename_i visible
      have quote : c ≠ '"' := notQuote
      have backslash : c ≠ '\\' := notBackslash
      simp [readChars, quote, backslash, visible]
  all_goals rfl

/-- A text between quotes is read back. -/
theorem readString_quoted (text : List Char) (rest : List Char) :
    readString (text.flatMap escapeChar ++ '"' :: rest) = .ok (String.ofList text, rest) := by
  -- The induction is on the characters, each of which is read back from the way it is written.
  have chars : readChars .plain (text.flatMap escapeChar ++ '"' :: rest) = .ok (text, rest) := by
    induction text with
    | nil => rfl
    | cons c text ih =>
      rw [List.flatMap_cons, List.append_assoc, readChars_escapeChar, ih]
      rfl
  rw [readString, chars]
  rfl

/-- A string is read back from behind its opening quote. -/
theorem readString_toList (value : String) (rest : List Char) :
    readString (value.toList.flatMap escapeChar ++ ['"'] ++ rest) = .ok (value, rest) := by
  -- A string is its characters, packed.
  have read := readString_quoted value.toList rest
  rw [String.ofList_toList] at read
  rw [List.append_assoc]
  exact read

/-- A string comes back from its text. -/
theorem Codec.string_returns (value : String) : Codec.string.Returns 0 value where
  starts := ⟨'"', _, rfl, by decide⟩
  reads _ rest _ _ := readString_toList value rest

end Texts

section Containers

variable {α : Type} {codec : Codec α} {depth : Nat}

/-- What is not there comes back from `null`. -/
theorem Codec.optional_returns_none : (Codec.optional codec).Returns 0 none where
  starts := ⟨'n', _, rfl, by decide⟩
  reads _ _ _ _ := rfl

/-- A value that may be `null` comes back when its own text is not one that `null` starts with. -/
theorem Codec.optional_returns_some {value : α} (returns : codec.Returns depth value)
    (other : (codec.write value).head? ≠ some 'n') :
    (Codec.optional codec).Returns depth (some value) where
  starts := returns.starts
  reads room rest enough follows := by
    have read := returns.reads room rest enough follows
    obtain ⟨c, text, written, opens⟩ := returns.starts
    rw [written, List.cons_append] at read
    simp only [Codec.optional, written, List.cons_append, dropBlanks_cons opens.1]
    -- The text is neither at its end nor at the start of a word.
    split
    · rename_i same
      cases same
    · rename_i same
      cases same
      simp [written] at other
    · rw [read]
      rfl

/-- Written parts are the first one, and a comma in front of each of the others. -/
theorem commaSeparated_cons (part : List Char) (parts : List (List Char)) :
    commaSeparated (part :: parts) = part ++ parts.flatMap (',' :: ·) := by
  -- The induction is on the parts, since the separators stand between two of them.
  induction parts generalizing part with
  | nil => simp [commaSeparated]
  | cons second parts ih =>
    have rest := ih second
    unfold commaSeparated at rest ⊢
    rw [List.intercalate_cons_cons, rest, List.flatMap_cons, List.append_assoc]
    rfl

/-- Behind an element or a member comes the comma of the next one, or what ends them all. -/
theorem follows_parts (parts : List (List Char)) {ending : List Char} (follows : Follows ending) :
    Follows (parts.flatMap (',' :: ·) ++ ending) := by
  cases parts with
  | nil => exact follows
  | cons part parts => exact .comma _

/-- The first element is what comes next, behind blanks. -/
theorem nextElement_first {c : Char} {text behind : List Char} (opens : Opens c)
    (found : dropBlanks text = c :: behind) : nextElement true text = .ok (some (c :: behind)) := by
  -- The character that was found opens a value, so it is not the bracket that closes the list.
  unfold nextElement
  rw [found]
  split
  · rename_i none
    cases none
  · rename_i bracket
    cases bracket
    exact absurd rfl opens.2.2.1
  · rename_i same
    cases same
    rfl

/-- Every other element comes behind a comma. -/
theorem nextElement_comma {c : Char} {text behind : List Char} (opens : Opens c)
    (found : dropBlanks text = c :: behind) :
    nextElement false (',' :: text) = .ok (some (c :: behind)) := by
  -- Behind the comma the search is that for a first element.
  have comma : dropBlanks (',' :: text) = ',' :: text := rfl
  unfold nextElement
  rw [comma]
  split
  · rename_i none
    cases none
  · rename_i bracket
    cases bracket
  · rename_i same
    cases same
    rw [if_neg (by decide), if_pos rfl, found]
    split
    · rename_i none
      cases none
    · rename_i bracket
      cases bracket
      exact absurd rfl opens.2.2.1
    · rfl

/-- The first element stands right behind the opening bracket. -/
theorem Codec.Returns.nextElement_first {value : α} (returns : codec.Returns depth value)
    (behind : List Char) : nextElement true (codec.write value ++ behind) =
      .ok (some (codec.write value ++ behind)) := by
  obtain ⟨c, text, written, opens⟩ := returns.starts
  rw [written, List.cons_append]
  exact Scoreboard.nextElement_first opens (dropBlanks_cons opens.1)

/-- Every other element stands right behind a comma. -/
theorem Codec.Returns.nextElement_comma {value : α} (returns : codec.Returns depth value)
    (behind : List Char) : nextElement false (',' :: (codec.write value ++ behind)) =
      .ok (some (codec.write value ++ behind)) := by
  obtain ⟨c, text, written, opens⟩ := returns.starts
  rw [written, List.cons_append]
  exact Scoreboard.nextElement_comma opens (dropBlanks_cons opens.1)

/-- An element that comes back is read in front of the others. -/
theorem readElements_cons {room turns : Nat} {first : Bool} {text behind rest : List Char}
    {value : α} {values : List α} (enough : depth ≤ room) (returns : codec.Returns depth value)
    (next : nextElement first text = .ok (some (codec.write value ++ behind)))
    (follows : Follows behind)
    (others : readElements (codec.read room) turns false behind = .ok (values, rest)) :
    readElements (codec.read room) (turns + 1) first text = .ok (value :: values, rest) := by
  have read := returns.reads room behind enough follows
  simp only [readElements, next]
  simp only [bind, Except.bind, read, others]

/-- The elements behind the first one are read back up to the closing bracket. -/
theorem readElements_behind {room : Nat} (enough : depth ≤ room) (rest : List Char) :
    ∀ (values : List α) (turns : Nat), (∀ value ∈ values, codec.Returns depth value) →
      values.length < turns →
      readElements (codec.read room) turns false
        ((values.map codec.write).flatMap (',' :: ·) ++ ']' :: rest) = .ok (values, rest) := by
  -- The induction is on the values, each of which takes one turn.
  intro values
  induction values with
  | nil =>
    intro turns _ more
    obtain ⟨turns, rfl⟩ := Nat.exists_eq_add_of_lt more
    rfl
  | cons value values ih =>
    intro turns returns more
    cases turns with
    | zero => cases more
    | succ turns =>
      obtain ⟨own, others⟩ := List.forall_mem_cons.mp returns
      have behind := ih turns others (Nat.lt_of_succ_lt_succ more)
      rw [List.map_cons, List.flatMap_cons, List.append_assoc]
      exact readElements_cons enough own (own.nextElement_comma _) (follows_parts _ (.bracket rest)) behind

/-- The elements of a list are read back up to the closing bracket. -/
theorem readElements_written {room : Nat} (enough : depth ≤ room) (rest : List Char)
    {values : List α} (returns : ∀ value ∈ values, codec.Returns depth value) {turns : Nat}
    (more : values.length < turns) :
    readElements (codec.read room) turns true
      (commaSeparated (values.map codec.write) ++ ']' :: rest) = .ok (values, rest) := by
  cases turns with
  | zero => cases more
  | succ turns =>
    cases values with
    | nil => rfl
    | cons value values =>
      -- No comma stands in front of the first element, and one in front of each of the others.
      obtain ⟨own, others⟩ := List.forall_mem_cons.mp returns
      have behind := readElements_behind enough rest values turns others
        (Nat.lt_of_succ_lt_succ more)
      rw [List.map_cons, commaSeparated_cons, List.append_assoc]
      exact readElements_cons enough own (own.nextElement_first _) (follows_parts _ (.bracket rest)) behind

/-- There is a comma for every part behind the first one. -/
theorem length_le_flatMap_comma (parts : List (List Char)) :
    parts.length ≤ (parts.flatMap (',' :: ·)).length := by
  -- The induction is on the parts.
  induction parts with
  | nil => exact Nat.le_refl 0
  | cons part parts ih =>
    simp only [List.flatMap_cons, List.length_append, List.length_cons]
    omega

/-- There are no more written parts than characters, one apart. -/
theorem length_le_commaSeparated (parts : List (List Char)) :
    parts.length ≤ (commaSeparated parts).length + 1 := by
  -- The commas alone are as many as the parts behind the first one.
  cases parts with
  | nil => exact Nat.zero_le _
  | cons part parts =>
    have commas := length_le_flatMap_comma parts
    rw [commaSeparated_cons, List.length_append, List.length_cons]
    omega

/-- A list comes back when its elements do. -/
theorem Codec.list_returns {values : List α}
    (returns : ∀ value ∈ values, codec.Returns depth value) :
    (Codec.list codec).Returns (depth + 1) values where
  starts := ⟨'[', _, rfl, by decide⟩
  reads room rest enough follows := by
    cases room with
    | zero => cases enough
    | succ room =>
      have inside : depth ≤ room := Nat.le_of_succ_le_succ enough
      show readElements (codec.read room)
        ((commaSeparated (values.map codec.write) ++ [']'] ++ rest).length + 1) true
        (commaSeparated (values.map codec.write) ++ [']'] ++ rest) = _
      rw [List.append_assoc]
      refine readElements_written inside rest returns ?_
      -- The text has room for all elements.
      have parts := length_le_commaSeparated (values.map codec.write)
      simp only [List.length_map, List.length_append, List.length_singleton] at parts ⊢
      omega

end Containers

/-- The names of the members of a record, in order. -/
def Fields.names {αs : List Type} : Fields αs → List String
  | .nil => []
  | .cons field fields => field.name :: fields.names

/-- The members of a record that are written, each with the text of its value. -/
def Fields.members {αs : List Type} : Fields αs → Tuple αs → List (String × List Char)
  | .nil, () => []
  | .cons field fields, (value, values) =>
    if field.hidden value then fields.members values
    else (field.name, field.codec.write value) :: fields.members values

/-- The slots after the members that are written have been read. -/
def Fields.filled {αs : List Type} : Fields αs → Tuple αs → Slots αs
  | .nil, () => ()
  | .cons field fields, (value, values) =>
    (if field.hidden value then none else some value, fields.filled values)

/-- A value of a member comes back: from its text, or because it is what an absent member means. -/
structure Field.Returns {α : Type} (field : Field α) (depth : Nat) (value : α) : Prop where
  hidden : field.hidden value = true → field.absent = some value
  written : field.hidden value = false → field.codec.Returns depth value

/-- The values of all members come back. -/
def Fields.Returns {αs : List Type} (depth : Nat) : Fields αs → Tuple αs → Prop
  | .nil, () => True
  | .cons field fields, (value, values) => field.Returns depth value ∧ fields.Returns depth values

/-- Members read one after the other lead from some slots to others. -/
inductive Fields.Fills {αs : List Type} (fields : Fields αs) (room : Nat) :
    Slots αs → List (String × List Char) → Slots αs → Prop
  | nothing (slots : Slots αs) : Fills fields room slots [] slots
  | member {slots between later : Slots αs} {name : String} {text : List Char}
      {members : List (String × List Char)}
      (read : ∀ rest, Follows rest →
        fields.readMember room name slots (':' :: (text ++ rest)) = .ok (between, rest))
      (others : Fills fields room between members later) :
      Fills fields room slots ((name, text) :: members) later

section Records

variable {α β : Type} {αs : List Type} {depth room : Nat}

/-- The members that are written are those that are not hidden. -/
theorem Fields.writeMembers_eq (fields : Fields αs) (values : Tuple αs) :
    fields.writeMembers values =
      (fields.members values).map fun member => writeMember member.1 member.2 := by
  -- The induction is on the members, each of which may be hidden.
  induction fields with
  | nil => rfl
  | cons field fields ih =>
    obtain ⟨value, values⟩ := values
    cases hidden : field.hidden value <;> simp [writeMembers, members, hidden, ih]

/-- A member that is written has the name of one of the members. -/
theorem Fields.name_mem_names {fields : Fields αs} {values : Tuple αs}
    {member : String × List Char} (written : member ∈ fields.members values) :
    member.1 ∈ fields.names := by
  -- The induction is on the members, the first of which may be hidden.
  induction fields with
  | nil => cases written
  | cons field fields ih =>
    obtain ⟨value, values⟩ := values
    simp only [members] at written
    split at written
    · exact List.mem_cons_of_mem _ (ih written)
    · rcases List.mem_cons.mp written with rfl | later
      · exact List.mem_cons_self
      · exact List.mem_cons_of_mem _ (ih later)

/-- No members fill no slots. -/
theorem Fields.Fills.eq_of_nil {fields : Fields αs} {slots later : Slots αs}
    (fills : fields.Fills room slots [] later) : later = slots := by
  cases fills
  rfl

/-- Members of other names leave the first slot alone. -/
theorem Fields.Fills.cons {field : Field α} {fields : Fields αs} {slot : Option α}
    {slots later : Slots αs} {members : List (String × List Char)}
    (fills : fields.Fills room slots members later)
    (others : ∀ member ∈ members, field.name ≠ member.1) :
    (Fields.cons field fields).Fills room (slot, slots) members (slot, later) := by
  -- The induction is on the members, which pass the first slot by.
  induction fills with
  | nothing slots => exact .nothing _
  | @member slots between later name text members read _ ih =>
    have other : field.name ≠ name := others _ List.mem_cons_self
    refine .member (fun rest follows => ?_) (ih fun member inside =>
      others member (List.mem_cons_of_mem _ inside))
    simp only [readMember, if_neg other]
    simp only [bind, Except.bind, read rest follows]

/-- The members of a record that are written fill its slots. -/
theorem Fields.fills {fields : Fields αs} {values : Tuple αs}
    (returns : fields.Returns depth values)
    (distinct : fields.names.Nodup) (enough : depth ≤ room) :
    fields.Fills room fields.empty (fields.members values) (fields.filled values) := by
  induction fields with
  | nil => exact .nothing _
  | cons field fields ih =>
    obtain ⟨value, values⟩ := values
    obtain ⟨own, others⟩ := returns
    obtain ⟨fresh, distinct⟩ := List.nodup_cons.mp distinct
    have apart : ∀ member ∈ fields.members values, field.name ≠ member.1 :=
      fun member written same => fresh (same ▸ name_mem_names written)
    have behind := ih others distinct
    simp only [members, filled, empty]
    cases hidden : field.hidden value with
    | true => exact behind.cons apart
    | false =>
      -- The first member fills the first slot, and the others leave it as it is.
      refine .member (fun rest follows => ?_) (behind.cons apart)
      have read := (own.written hidden).reads room rest enough follows
      have colon : readColon (':' :: (field.codec.write value ++ rest)) =
          .ok (field.codec.write value ++ rest) := rfl
      simp only [readMember, if_true]
      simp only [bind, Except.bind, colon, read]
      rfl

/-- Filled slots make the values that were written, absent members included. -/
theorem Fields.complete_filled {fields : Fields αs} {values : Tuple αs}
    (returns : fields.Returns depth values) :
    fields.complete (fields.filled values) = .ok values := by
  induction fields with
  | nil => rfl
  | cons field fields ih =>
    obtain ⟨value, values⟩ := values
    obtain ⟨own, others⟩ := returns
    -- A hidden value leaves its slot empty, and is what the empty slot means.
    have slot : (if field.hidden value = true then none else some value).or field.absent =
        some value := by
      cases hidden : field.hidden value with
      | true => exact own.hidden hidden
      | false => rfl
    simp only [filled, complete, slot, ih others]
    rfl

/-- A member stands behind the quote that opens its name. -/
theorem writeMember_eq (name : String) (text rest : List Char) :
    writeMember name text ++ rest =
      '"' :: (name.toList.flatMap escapeChar ++ '"' :: ':' :: (text ++ rest)) := by
  simp [writeMember, quote]

/-- Members are read back one after the other, up to the closing brace. -/
theorem Fields.Fills.readMembers {fields : Fields αs} (rest : List Char)
    {members : List (String × List Char)} :
    ∀ {slots later : Slots αs} {name : String} {text : List Char} {turns : Nat},
      fields.Fills room slots ((name, text) :: members) later → members.length < turns →
      Scoreboard.readMembers (fun slots text => do
          let (name, text) ← readString text
          fields.readMember room name slots text) turns slots
        (name.toList.flatMap escapeChar ++ '"' :: ':' :: (text ++
          ((members.map fun member => writeMember member.1 member.2).flatMap (',' :: ·) ++
            '}' :: rest))) = .ok (later, rest) := by
  induction members with
  | nil =>
    intro slots later name text turns fills more
    obtain ⟨turns, rfl⟩ := Nat.exists_eq_add_of_lt more
    cases fills with
    | member read others =>
      cases others
      have own := read _ (.brace rest)
      simp only [List.map_nil, List.flatMap_nil, List.nil_append, Scoreboard.readMembers,
        readString_quoted, bind, Except.bind, String.ofList_toList, own]
      rfl
  | cons second members ih =>
    intro slots later name text turns fills more
    cases turns with
    | zero => cases more
    | succ turns =>
      obtain ⟨other, value⟩ := second
      cases fills with
      | member read others =>
        have own := read _ (follows_parts
          (writeMember other value :: members.map fun member => writeMember member.1 member.2)
          (.brace rest))
        have behind := ih others (Nat.lt_of_succ_lt_succ more)
        -- Behind the value stand a comma and the quote that opens the next name.
        simp only [List.map_cons, List.flatMap_cons, List.cons_append, List.append_assoc,
          writeMember_eq] at own ⊢
        simp only [Scoreboard.readMembers, readString_quoted, bind, Except.bind,
          String.ofList_toList, own]
        exact behind

/-- The members of a record are read back up to the closing brace. -/
theorem Fields.readObject_written {fields : Fields αs} {values : Tuple αs}
    (returns : fields.Returns depth values) (distinct : fields.names.Nodup) (enough : depth ≤ room)
    (rest : List Char) :
    fields.readObject room (commaSeparated (fields.writeMembers values) ++ '}' :: rest) =
      .ok (values, rest) := by
  -- Reading fills the slots with what was written, and the slots make the values again.
  have fills := Fields.fills returns distinct enough
  have complete := Fields.complete_filled returns
  have slots : Scoreboard.readObject (fun slots text => do
      let (name, text) ← readString text
      fields.readMember room name slots text) fields.empty
      (commaSeparated (fields.writeMembers values) ++ '}' :: rest) =
        .ok (fields.filled values, rest) := by
    rw [Fields.writeMembers_eq]
    cases written : fields.members values with
    | nil =>
      rw [written] at fills
      rw [fills.eq_of_nil]
      rfl
    | cons first members =>
      obtain ⟨name, text⟩ := first
      rw [written] at fills
      rw [List.map_cons, commaSeparated_cons, List.append_assoc, writeMember_eq]
      refine fills.readMembers rest ?_
      -- The text has room for all members.
      have commas := length_le_flatMap_comma
        (members.map fun member => writeMember member.1 member.2)
      simp only [List.length_map, List.length_append, List.length_cons] at commas ⊢
      omega
  exact bind_eq_ok_iff.mpr ⟨_, slots, bind_eq_ok_iff.mpr ⟨_, complete, rfl⟩⟩

/-- A record comes back when its members do and have names of their own. -/
theorem Record.returns {record : Record αs β} {value : β}
    (returns : record.fields.Returns depth (record.parts value))
    (distinct : record.fields.names.Nodup) (same : record.make (record.parts value) = value) :
    record.codec.Returns (depth + 1) value where
  -- Behind the brace the written members fill the slots again, from which the value is made.
  starts := ⟨'{', _, rfl, by decide⟩
  reads room rest enough follows := by
    cases room with
    | zero => cases enough
    | succ room =>
      have inside : depth ≤ room := Nat.le_of_succ_le_succ enough
      show (record.fields.readObject room (commaSeparated
        (record.fields.writeMembers (record.parts value)) ++ ['}'] ++ rest)).map _ = _
      rw [List.append_assoc, List.singleton_append,
        Fields.readObject_written returns distinct inside rest]
      exact congrArg (fun value => Except.ok (value, rest)) same

end Records

end Scoreboard
