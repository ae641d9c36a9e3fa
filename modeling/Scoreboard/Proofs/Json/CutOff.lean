import Scoreboard.Proofs.Json.RoundTrip

/-! Texts that are cut off: reading them runs out of text before it meets any other problem. -/

namespace Scoreboard

/-- Nothing is read, because of a problem of the kind said. -/
def Refused {α : Type} (Kind : DecodeError → Prop)
    (reading : Except DecodeError (α × List Char)) : Prop :=
  ∃ problem, reading = .error problem ∧ Kind problem

/-- Nothing is read, or some value that takes up all of the text. -/
def RunsOut {α : Type} (Kind : DecodeError → Prop)
    (reading : Except DecodeError (α × List Char)) : Prop :=
  Refused Kind reading ∨ ∃ value, reading = .ok (value, [])

/-- What is read of a value and the text behind it when some of them is lost. -/
inductive ReadsCut {α : Type} (Bad : Except DecodeError (α × List Char) → Prop) (value : α)
    (rest lost : List Char) : Except DecodeError (α × List Char) → Prop
  /-- The cut is behind the value, which is read all the same. -/
  | behind {left : List Char} (same : left ++ lost = rest) :
      ReadsCut Bad value rest lost (.ok (value, left))
  /-- The cut is inside the value. -/
  | inside {reading : Except DecodeError (α × List Char)} (bad : Bad reading) :
      ReadsCut Bad value rest lost reading

/-- What becomes of the value that is read from a text when the text is cut, whatever follows it. -/
def Codec.CutsText {α : Type} (codec : Codec α) (Bad : Except DecodeError (α × List Char) → Prop)
    (depth : Nat) (written : List Char) (value : α) : Prop :=
  ∀ ⦃room text lost rest⦄, depth ≤ room → Follows rest → text ++ lost = written ++ rest →
    ReadsCut Bad value rest lost (codec.read room text)

/-- What becomes of a value when the text is cut that it is written as. -/
def Codec.Cuts {α : Type} (codec : Codec α) (Bad : Except DecodeError (α × List Char) → Prop)
    (depth : Nat) (value : α) : Prop :=
  codec.CutsText Bad depth (codec.write value) value

/-- Wherever the text of a value is cut, what is left is refused for a problem of the kind said. -/
def Codec.RefusesCuts {α : Type} (codec : Codec α) (Kind : DecodeError → Prop) (value : α) : Prop :=
  ∀ text lost : String, codec.toText value = text ++ lost → lost ≠ "" →
    ∃ problem, codec.ofText text = .error problem ∧ Kind problem

section Results

variable {α β : Type} {Kind : DecodeError → Prop}
  {Bad : Except DecodeError (α × List Char) → Prop} {value : α} {rest lost : List Char}
  {reading : Except DecodeError (α × List Char)}
  {next : α × List Char → Except DecodeError (β × List Char)}

/-- A problem of the kind refuses. -/
theorem Refused.error {problem : DecodeError} (kind : Kind problem) :
    Refused Kind (.error problem : Except DecodeError (α × List Char)) :=
  ⟨problem, rfl, kind⟩

/-- What is refused has run out. -/
theorem Refused.runsOut (refused : Refused Kind reading) : RunsOut Kind reading :=
  .inl refused

/-- What is refused stays so, whatever is made of the value. -/
theorem Refused.map {change : α × List Char → β × List Char} (refused : Refused Kind reading) :
    Refused Kind (reading.map change) := by
  obtain ⟨problem, rfl, kind⟩ := refused
  exact .error kind

/-- What has run out stays so, whatever is made of the value. -/
theorem RunsOut.map (change : α → β) (out : RunsOut Kind reading) :
    RunsOut Kind (reading.map fun (value, rest) => (change value, rest)) := by
  rcases out with refused | ⟨value, rfl⟩
  · exact .inl refused.map
  · exact .inr ⟨change value, rfl⟩

/-- What goes on behind a refused value is never reached. -/
theorem Refused.bind (refused : Refused Kind reading) : Refused Kind (reading >>= next) := by
  obtain ⟨problem, rfl, kind⟩ := refused
  exact .error kind

/-- A value that takes up all of the text leaves nothing for what has to follow it. -/
theorem RunsOut.bind (out : RunsOut Kind reading)
    (ends : ∀ value, Refused Kind (next (value, []))) : Refused Kind (reading >>= next) := by
  rcases out with refused | ⟨value, rfl⟩
  · exact refused.bind
  · exact ends value

/-- A reading that is refused inside runs out inside. -/
theorem ReadsCut.loosen (cut : ReadsCut (Refused Kind) value rest lost reading) :
    ReadsCut (RunsOut Kind) value rest lost reading := by
  cases cut with
  | behind same => exact .behind same
  | inside refused => exact .inside refused.runsOut

/-- A value that is changed is cut like the one before the change, and refused like it. -/
theorem ReadsCut.map_refused (change : α → β)
    (cut : ReadsCut (Refused Kind) value rest lost reading) :
    ReadsCut (Refused Kind) (change value) rest lost
      (reading.map fun (value, rest) => (change value, rest)) := by
  cases cut with
  | behind same => exact .behind same
  | inside refused => exact .inside refused.map

/-- A value that is changed is cut like the one before the change, and runs out like it. -/
theorem ReadsCut.map_runsOut (change : α → β)
    (cut : ReadsCut (RunsOut Kind) value rest lost reading) :
    ReadsCut (RunsOut Kind) (change value) rest lost
      (reading.map fun (value, rest) => (change value, rest)) := by
  cases cut with
  | behind same => exact .behind same
  | inside out => exact .inside (out.map change)

/-- A value that is put into another one is cut like it. -/
theorem ReadsCut.wrap (change : α → β) (cut : ReadsCut (RunsOut Kind) value rest lost reading) :
    ReadsCut (RunsOut Kind) (change value) rest lost
      (reading >>= fun (value, rest) => .ok (change value, rest)) := by
  -- Going on with a value that is only changed is changing it.
  have same : (reading >>= fun (value, rest) => .ok (change value, rest)) =
      reading.map fun (value, rest) => (change value, rest) := by
    cases reading <;> rfl
  rw [same]
  exact cut.map_runsOut change

/-- A value is read from a cut text up to the cut, and what follows it from what is left. -/
theorem ReadsCut.bind {Worse : Except DecodeError (β × List Char) → Prop} {later : β}
    {behind : List Char} (cut : ReadsCut Bad value rest lost reading)
    (worse : Bad reading → Worse (reading >>= next))
    (follows : ∀ left, left ++ lost = rest → ReadsCut Worse later behind lost (next (value, left))) :
    ReadsCut Worse later behind lost (reading >>= next) := by
  cases cut with
  | behind same => exact follows _ same
  | inside bad => exact .inside (worse bad)

/-- Whatever is decided in front of the cut is decided the same way without the text behind it. -/
theorem ReadsCut.choose {choice : Prop} [Decidable choice]
    {first second cutFirst cutSecond : Except DecodeError (α × List Char)}
    (whole : (if choice then first else second) = .ok (value, rest))
    (yes : first = .ok (value, rest) → ReadsCut Bad value rest lost cutFirst)
    (no : second = .ok (value, rest) → ReadsCut Bad value rest lost cutSecond) :
    ReadsCut Bad value rest lost (if choice then cutFirst else cutSecond) := by
  -- The choice is the same in both readings.
  split
  · rename_i chosen
    exact yes ((if_pos chosen).symm.trans whole)
  · rename_i other
    exact no ((if_neg other).symm.trans whole)

end Results

section Whole

variable {α : Type} {codec : Codec α} {Kind : DecodeError → Prop} {depth : Nat} {value : α}

/-- A codec that refuses its cut texts runs out in them. -/
theorem Codec.Cuts.loosen (cuts : codec.Cuts (Refused Kind) depth value) :
    codec.Cuts (RunsOut Kind) depth value :=
  fun _ _ _ _ enough follows whole => (cuts enough follows whole).loosen

/-- A value is cut in the same way where there is more room. -/
theorem Codec.Cuts.deeper {Bad : Except DecodeError (α × List Char) → Prop}
    (cuts : codec.Cuts Bad depth value) {deeper : Nat} (order : depth ≤ deeper) : codec.Cuts Bad deeper value :=
  fun _ _ _ _ enough => cuts (Nat.le_trans order enough)

/-- A text that runs out where it is cut off is refused as a whole. -/
theorem Codec.CutsText.refuses {seen : α}
    (cuts : codec.CutsText (Refused Kind) depth (codec.write value) seen)
    (shallow : depth ≤ nestingLimit) : codec.RefusesCuts Kind value := by
  intro text lost whole some
  have split : text.toList ++ lost.toList = codec.write value ++ [] := by
    rw [List.append_nil, ← String.toList_append, ← whole, Codec.toText, String.toList_ofList]
  generalize cut : codec.read nestingLimit text.toList = reading
  have read := cuts shallow .nothing split
  rw [cut] at read
  cases read with
  | behind same =>
    -- Nothing follows the value, so nothing would have been lost.
    have none : lost.toList = [] := (List.append_eq_nil_iff.mp same).2
    exact absurd (String.toList_eq_nil_iff.mp none) some
  | inside refused =>
    obtain ⟨problem, rfl, kind⟩ := refused
    refine ⟨problem, ?_, kind⟩
    rw [Codec.ofText, Codec.decode, cut]
    rfl

end Whole

section Numbers

variable {Kind : DecodeError → Prop} {value : Int} {text lost rest : List Char}

/-- The start of a row of digits is empty, or the digits of a number that is not larger. -/
theorem natDigits_of_prefix {text : List Char} (value : Nat) (start : text <+: natDigits value) :
    text = [] ∨ ∃ part, part ≤ value ∧ (0 < value → 0 < part) ∧ text = natDigits part := by
  -- The last digit is there, or it is not and the text is the start of fewer digits.
  induction value using Nat.strongRecOn with
  | ind value ih =>
    rcases Nat.lt_or_ge value 10 with small | large
    · have single : natDigits value = [] ++ [value.digitChar] := Nat.toDigits_of_lt_base small
      rw [single, List.prefix_concat_iff] at start
      rcases start with rfl | start
      · exact .inr ⟨value, Nat.le_refl value, id, single.symm⟩
      · exact .inl (List.prefix_nil.mp start)
    · have more : natDigits value = natDigits (value / 10) ++ [(value % 10).digitChar] :=
        Nat.toDigits_of_base_le (by decide) large
      rw [more, List.prefix_concat_iff] at start
      rcases start with rfl | start
      · exact .inr ⟨value, Nat.le_refl value, id, more.symm⟩
      · rcases ih (value / 10) (by omega) start with rfl | ⟨part, below, positive, rfl⟩
        · exact .inl rfl
        · exact .inr ⟨part, by omega, fun _ => positive (by omega), rfl⟩

/-- The start of a number is empty, a lone sign, or a number between it and zero. -/
theorem intDigits_of_prefix (start : text <+: intDigits value) : text = [] ∨ text = ['-'] ∨
    ∃ part, (0 ≤ part ∧ part ≤ value ∨ value ≤ part ∧ part ≤ 0) ∧ text = intDigits part := by
  -- The start of a number without a sign is a smaller one, and the sign may stand alone.
  cases value with
  | ofNat value =>
    rcases natDigits_of_prefix value start with rfl | ⟨part, below, _, rfl⟩
    · exact .inl rfl
    · exact .inr (.inr ⟨.ofNat part, .inl ⟨Int.natCast_nonneg part, Int.ofNat_le.mpr below⟩, rfl⟩)
  | negSucc value =>
    rcases List.prefix_cons_iff.mp start with rfl | ⟨digits, rfl, behind⟩
    · exact .inl rfl
    · rcases natDigits_of_prefix (value + 1) behind with rfl | ⟨part, below, positive, rfl⟩
      · exact .inr (.inl rfl)
      · -- Behind the sign there is a number that is not zero, as in front of the cut.
        obtain ⟨less, rfl⟩ := Nat.exists_eq_succ_of_ne_zero (positive (Nat.succ_pos value)).ne'
        exact .inr (.inr ⟨.negSucc less, .inr (by omega), rfl⟩)

/-- What is left of a text that may follow a value may follow it, too. -/
theorem Follows.of_append {left : List Char} (follows : Follows (left ++ lost)) : Follows left := by
  -- The first character is the same, or there is none left.
  cases left with
  | nil => exact .nothing
  | cons c left =>
    rw [List.cons_append] at follows
    cases follows with
    | comma => exact .comma left
    | bracket => exact .bracket left
    | brace => exact .brace left

/-- What is left of a text that does not carry a number on does not carry it on, either. -/
theorem Stops.of_append {left : List Char} (stops : Stops (left ++ lost)) : Stops left := by
  cases left with
  | nil => exact Follows.nothing.stops
  | cons c left => exact stops

/-- The start of a number that is cut off is no number at all, or a smaller one. -/
theorem readWithin_cut (cutOff : Kind .truncated) {low high : Int} (stops : Stops rest)
    (above : low ≤ value) (below : value ≤ high) (low64 : -0x8000000000000000 ≤ low)
    (high64 : high ≤ 0xFFFFFFFFFFFFFFFF) (negative : low ≤ 0) (positive : 0 ≤ high)
    (whole : text ++ lost = intDigits value ++ rest) :
    ReadsCut (RunsOut Kind) value rest lost (readWithin low high text) := by
  -- The cut goes through the digits, or leaves all of them.
  rcases List.append_eq_append_iff.mp whole with ⟨missing, digits, -⟩ | ⟨left, rfl, rfl⟩
  · refine .inside ?_
    rcases intDigits_of_prefix ⟨missing, digits.symm⟩ with rfl | rfl | ⟨part, between, rfl⟩
    · exact .inl (.error cutOff)
    · exact .inl (.error cutOff)
    · have read := @readWithin_intDigits [] Follows.nothing.stops low high part (by omega)
        (by omega) low64 high64
      rw [List.append_nil] at read
      exact .inr ⟨part, read⟩
  · -- The number is all there, and what is left of the text behind it does not carry it on.
    rw [readWithin_intDigits stops.of_append above below low64 high64]
    exact .behind rfl

/-- An integer of 64 bits is cut in front of anything that does not carry it on. -/
theorem readInt64_cut (cutOff : Kind .truncated) {value : Int64} {room : Nat} (stops : Stops rest)
    (whole : text ++ lost = intDigits value.toInt ++ rest) :
    ReadsCut (RunsOut Kind) value rest lost (Codec.int64.read room text) := by
  -- The bounds are those of a word, so what is read within them is the word.
  have low := Int64.le_toInt value
  have high := Int64.toInt_lt value
  have cut := readWithin_cut cutOff stops low (by omega) (by decide)
    (by decide : (0x7FFFFFFFFFFFFFFF : Int) ≤ _) (by decide) (by decide) whole
  have read := cut.map_runsOut Int64.ofInt
  rw [value.ofInt_toInt] at read
  exact read

/-- A number of 64 bits that is cut off is none, or another one with nothing behind it. -/
theorem Codec.int64_cuts (cutOff : Kind .truncated) (value : Int64) :
    Codec.int64.Cuts (RunsOut Kind) 0 value :=
  fun _ _ _ _ _ follows whole => readInt64_cut cutOff follows.stops whole

/-- A number of 32 bits that is cut off is none, or another one with nothing behind it. -/
theorem Codec.uint32_cuts (cutOff : Kind .truncated) (value : UInt32) :
    Codec.uint32.Cuts (RunsOut Kind) 0 value := by
  -- What is read within the bounds of 32 bits is that number again.
  intro room text lost rest _ follows whole
  have bound := value.toNat_lt
  have cut := @readWithin_cut Kind value.toNat text lost rest cutOff 0 0xFFFFFFFF follows.stops
    (by omega) (by omega) (by decide) (by decide) (by decide) (by decide) whole
  have read := cut.map_runsOut fun number => UInt32.ofNat number.toNat
  rw [Int.toNat_natCast, UInt32.ofNat_toNat] at read
  exact read

end Numbers

section Texts

variable {Kind : DecodeError → Prop}

/-- A string that is cut off runs out of text, be it inside an escape or between two characters. -/
theorem readChars_cut (cutOff : Kind .truncated) {lost rest : List Char} :
    ∀ {text mode chars}, readChars mode (text ++ lost) = .ok (chars, rest) →
      ReadsCut (Refused Kind) chars rest lost (readChars mode text) := by
  intro text
  induction text with
  | nil =>
    intro mode chars _
    cases mode <;> exact .inside (.error cutOff)
  | cons c text ih =>
    intro mode chars whole
    -- A character that is finished leaves the others to be read behind it.
    have further : ∀ first, ((readChars .plain (text ++ lost)).map fun read =>
        (first :: read.1, read.2)) = .ok (chars, rest) → ReadsCut (Refused Kind) chars rest lost
          ((readChars .plain text).map fun read => (first :: read.1, read.2)) := by
      intro first whole
      obtain ⟨⟨others, behind⟩, inner, same⟩ := map_eq_ok_iff.mp whole
      cases same
      exact (ih inner).map_refused (first :: ·)
    -- In every mode, the character leads the whole text and the cut one the same way on.
    rw [List.cons_append] at whole
    cases mode with
    | plain =>
      refine .choose whole (fun ends => ?_) fun whole => .choose whole ih fun whole =>
        .choose whole nofun (further c)
      cases ends
      exact .behind rfl
    | escape =>
      refine .choose whole ih fun whole => ?_
      cases letter : unescape? c with
      | none => simp [letter] at whole
      | some d =>
        simp only [letter] at whole ⊢
        exact further d whole
    | hex leading owed unit =>
      simp only [readChars] at whole ⊢
      cases digit : hexValue? c with
      | none => simp [digit] at whole
      | some value =>
        simp only [digit] at whole ⊢
        refine .choose whole ih fun whole => ?_
        cases leading with
        | some high => exact .choose whole (further _) nofun
        | none => exact .choose whole nofun fun whole => .choose whole ih (further _)
    | half leading => exact .choose whole ih nofun
    | halfEscape leading => exact .choose whole ih nofun

/-- A string that is cut off in front of its closing quote runs out of text. -/
theorem readString_cut (cutOff : Kind .truncated) {text lost rest : List Char} {value : String}
    (whole : readString (text ++ lost) = .ok (value, rest)) :
    ReadsCut (Refused Kind) value rest lost (readString text) := by
  obtain ⟨⟨chars, behind⟩, inner, same⟩ := map_eq_ok_iff.mp whole
  cases same
  exact (readChars_cut cutOff inner).map_refused String.ofList

/-- A string that is cut off is refused. -/
theorem Codec.string_cuts (cutOff : Kind .truncated) (value : String) :
    Codec.string.Cuts (Refused Kind) 0 value := by
  intro room text lost rest _ _ whole
  cases text with
  | nil => exact .inside (.error cutOff)
  | cons c text =>
    -- The text starts with the opening quote, and the string is what stands behind it.
    obtain ⟨rfl, _⟩ := List.cons.inj whole
    have body : text ++ lost = value.toList.flatMap escapeChar ++ ['"'] ++ rest :=
      (List.cons.inj whole).2
    exact readString_cut cutOff (body ▸ readString_toList value rest)

/-- A fixed word that is cut off runs out of text. -/
theorem readWord_cut (cutOff : Kind .truncated) {α : Type} (value : α) {lost rest : List Char} :
    ∀ {word text}, readWord word (text ++ lost) = .ok rest →
      ReadsCut (Refused Kind) value rest lost
        ((readWord word text).map fun rest => (value, rest)) := by
  -- The induction is on the letters, which are compared in front of the cut.
  intro word
  induction word with
  | nil =>
    intro text whole
    cases whole
    exact .behind rfl
  | cons letter word ih =>
    intro text whole
    cases text with
    | nil => exact .inside (.error cutOff)
    | cons c text =>
      simp only [List.cons_append, readWord] at whole ⊢
      split
      · rename_i same
        exact ih ((if_pos same).symm.trans whole)
      · rename_i other
        cases (if_neg other).symm.trans whole

end Texts

section Containers

variable {α : Type} {codec : Codec α} {Kind : DecodeError → Prop} {depth : Nat}

/-- The first character of what is left of a value is the one that the value starts with. -/
theorem Codec.Returns.head_of_cut {value : α} (returns : codec.Returns depth value) {c : Char}
    {text lost rest : List Char} (whole : c :: text ++ lost = codec.write value ++ rest) :
    Opens c ∧ (codec.write value).head? = some c := by
  -- The text of a value is not empty, so its first character is that of the whole.
  obtain ⟨first, others, written, opens⟩ := returns.starts
  rw [written] at whole ⊢
  obtain ⟨rfl, _⟩ := List.cons.inj whole
  exact ⟨opens, rfl⟩

/-- A value that may be `null` is cut like the value, when its text is not one of `null`. -/
theorem Codec.optional_cuts_some (cutOff : Kind .truncated) {value : α}
    (returns : codec.Returns depth value) (cuts : codec.Cuts (RunsOut Kind) depth value)
    (other : (codec.write value).head? ≠ some 'n') :
    (Codec.optional codec).Cuts (RunsOut Kind) depth (some value) := by
  intro room text lost rest enough follows whole
  have read := cuts enough follows whole
  cases text with
  | nil => exact .inside (.inl (.error cutOff))
  | cons c text =>
    obtain ⟨opens, head⟩ := returns.head_of_cut whole
    -- The text is neither at its end nor at the start of a word.
    simp only [Codec.optional, dropBlanks_cons opens.1]
    split
    · rename_i none
      cases none
    · rename_i word
      cases word
      exact absurd head other
    · exact read.map_runsOut some

/-- A list that goes on has run out of text where the text ends. -/
theorem readElements_nil {element : List Char → Except DecodeError (α × List Char)} (turns : Nat) :
    readElements element turns false [] = .error .truncated := by
  cases turns <;> rfl

/-- An element in front of the others is cut off, or the others are. -/
theorem readElements_cut_cons (cutOff : Kind .truncated) {room turns : Nat} {first : Bool}
    {text element behind rest lost : List Char} {value : α} {values : List α}
    (enough : depth ≤ room) (cuts : codec.Cuts (RunsOut Kind) depth value)
    (next : nextElement first text = .ok (some element))
    (whole : element ++ lost = codec.write value ++ behind) (follows : Follows behind)
    (others : ∀ left, left ++ lost = behind →
      ReadsCut (Refused Kind) values rest lost (readElements (codec.read room) turns false left)) :
    ReadsCut (Refused Kind) (value :: values) rest lost
      (readElements (codec.read room) (turns + 1) first text) := by
  -- Inside the first element the list is refused, since it is not closed behind what was read.
  simp only [readElements, next]
  refine (cuts enough follows whole).bind (fun out => out.bind fun smaller => ?_) fun left same => ?_
  · simp only [readElements_nil]
    exact .error cutOff
  · exact (others left same).bind Refused.bind fun left same => .behind same

/-- Where the elements behind the first one are cut off, the list runs out of text. -/
theorem readElements_cut_behind (cutOff : Kind .truncated) {room : Nat} (enough : depth ≤ room)
    {rest lost : List Char} : ∀ {values : List α} {turns : Nat} {text : List Char},
      (∀ value ∈ values, codec.Returns depth value) →
      (∀ value ∈ values, codec.Cuts (RunsOut Kind) depth value) →
      text ++ lost = (values.map codec.write).flatMap (',' :: ·) ++ ']' :: rest →
      ReadsCut (Refused Kind) values rest lost
        (readElements (codec.read room) turns false text) := by
  intro values
  induction values with
  | nil =>
    intro turns text _ _ whole
    cases turns with
    | zero => exact .inside (.error cutOff)
    | succ turns =>
      cases text with
      | nil => exact .inside (.error cutOff)
      | cons c text =>
        obtain ⟨rfl, same⟩ := List.cons.inj whole
        exact .behind same
  | cons value values ih =>
    intro turns text returns cuts whole
    obtain ⟨own, returns⟩ := List.forall_mem_cons.mp returns
    obtain ⟨cut, cuts⟩ := List.forall_mem_cons.mp cuts
    rw [List.map_cons, List.flatMap_cons, List.append_assoc, List.cons_append] at whole
    cases turns with
    | zero => exact .inside (.error cutOff)
    | succ turns =>
      -- In front of the element stands its comma, and the text may end on either side of that.
      match text, whole with
      | [], _ => exact .inside (.error cutOff)
      | [_], whole =>
        obtain ⟨rfl, _⟩ := List.cons.inj whole
        exact .inside (.error cutOff)
      | _ :: c :: text, whole =>
        obtain ⟨rfl, same⟩ := List.cons.inj whole
        have opens := (own.head_of_cut same).1
        have next := nextElement_comma opens (@dropBlanks_cons c text opens.1)
        exact readElements_cut_cons cutOff enough cut next same
          (follows_parts _ (.bracket rest)) fun left same => ih returns cuts same

/-- A list that is cut off runs out of text. -/
theorem Codec.list_cuts (cutOff : Kind .truncated) {values : List α}
    (returns : ∀ value ∈ values, codec.Returns depth value)
    (cuts : ∀ value ∈ values, codec.Cuts (RunsOut Kind) depth value) :
    (Codec.list codec).Cuts (Refused Kind) (depth + 1) values := by
  intro room text lost rest enough follows whole
  match room, text, enough, whole with
  | _, [], _, _ => exact .inside (.error cutOff)
  | room + 1, _ :: text, enough, whole =>
    have inside : depth ≤ room := Nat.le_of_succ_le_succ enough
    obtain ⟨rfl, body⟩ := List.cons.inj whole
    show ReadsCut _ _ _ _ (readElements (codec.read room) (text.length + 1) true text)
    cases values with
    | nil =>
      cases text with
      | nil => exact .inside (.error cutOff)
      | cons c text =>
        obtain ⟨rfl, same⟩ := List.cons.inj body
        exact .behind same
    | cons value values =>
      -- No comma stands in front of the first element, and one in front of each of the others.
      obtain ⟨own, returns⟩ := List.forall_mem_cons.mp returns
      obtain ⟨cut, cuts⟩ := List.forall_mem_cons.mp cuts
      have same : text ++ lost = codec.write value ++
          ((values.map codec.write).flatMap (',' :: ·) ++ ']' :: rest) := by
        simpa [commaSeparated_cons] using body
      cases text with
      | nil => exact .inside (.error cutOff)
      | cons c text =>
        have opens := (own.head_of_cut same).1
        have next := nextElement_first opens (@dropBlanks_cons c text opens.1)
        exact readElements_cut_cons cutOff inside cut next same
          (follows_parts _ (.bracket rest)) fun left same =>
            readElements_cut_behind cutOff inside returns cuts same

end Containers

/-- Members of an object, each of which may be cut off, lead from one state to another. -/
inductive CutsAlong {σ : Type} (Kind : DecodeError → Prop)
    (member : σ → List Char → Except DecodeError (σ × List Char)) :
    σ → List (List Char) → σ → Prop
  | nothing (state : σ) : CutsAlong Kind member state [] state
  | member {state between later : σ} {text : List Char} {texts : List (List Char)}
      (own : ∀ {cut lost rest}, Follows rest → cut ++ lost = text ++ rest →
        ReadsCut (RunsOut Kind) between rest lost (member state cut))
      (others : CutsAlong Kind member between texts later) :
      CutsAlong Kind member state (text :: texts) later

/-- A member as it is written behind the quote that opens its name. -/
def memberText (name : String) (value : List Char) : List Char :=
  name.toList.flatMap escapeChar ++ '"' :: ':' :: value

section Objects

variable {σ : Type} {Kind : DecodeError → Prop}
  {member : σ → List Char → Except DecodeError (σ × List Char)} {lost rest : List Char}

/-- An object that is cut off behind its first name runs out of text. -/
theorem readMembers_cut (cutOff : Kind .truncated) {later : σ} : ∀ {texts : List (List Char)}
    {text cut : List Char} {state : σ} {turns : Nat},
      CutsAlong Kind member state (text :: texts) later →
      cut ++ lost = text ++ ((texts.map ('"' :: ·)).flatMap (',' :: ·) ++ '}' :: rest) →
      ReadsCut (Refused Kind) later rest lost (readMembers member turns state cut) := by
  intro texts
  induction texts with
  | nil =>
    intro text cut state turns along whole
    cases turns with
    | zero => exact .inside (.error cutOff)
    | succ turns =>
      cases along with
      | member own others =>
        cases others
        refine (own (.brace rest) whole).bind (fun out => out.bind fun _ => .error cutOff) ?_
        intro left same
        -- Behind the last member the object closes.
        cases left with
        | nil => exact .inside (.error cutOff)
        | cons c left =>
          obtain ⟨rfl, behind⟩ := List.cons.inj same
          exact .behind behind
  | cons second texts ih =>
    intro text cut state turns along whole
    cases turns with
    | zero => exact .inside (.error cutOff)
    | succ turns =>
      cases along with
      | member own others =>
        have follows := follows_parts ((second :: texts).map ('"' :: ·)) (.brace rest)
        refine (own follows whole).bind (fun out => out.bind fun _ => .error cutOff) ?_
        intro left same
        -- Behind every other member come a comma and the quote that opens the next name.
        rw [List.map_cons, List.flatMap_cons, List.append_assoc] at same
        match left, same with
        | [], _ => exact .inside (.error cutOff)
        | [_], same =>
          obtain ⟨rfl, _⟩ := List.cons.inj same
          exact .inside (.error cutOff)
        | _ :: _ :: left, same =>
          obtain ⟨rfl, quoted⟩ := List.cons.inj same
          obtain ⟨rfl, named⟩ := List.cons.inj quoted
          exact ih others named

/-- An object that is cut off behind its opening brace runs out of text. -/
theorem readObject_cut (cutOff : Kind .truncated) {texts : List (List Char)} {start later : σ}
    (along : CutsAlong Kind member start texts later) {cut : List Char}
    (whole : cut ++ lost = commaSeparated (texts.map ('"' :: ·)) ++ '}' :: rest) :
    ReadsCut (Refused Kind) later rest lost (readObject member start cut) := by
  -- Nothing is left, or an object without members, or the start of the first member.
  cases cut with
  | nil => exact .inside (.error cutOff)
  | cons c cut =>
    cases texts with
    | nil =>
      cases along
      obtain ⟨rfl, same⟩ := List.cons.inj whole
      exact .behind same
    | cons text texts =>
      rw [List.map_cons, commaSeparated_cons, List.append_assoc] at whole
      obtain ⟨rfl, same⟩ := List.cons.inj whole
      exact readMembers_cut cutOff along same

/-- A member is cut off in its name or behind it. -/
theorem memberText_cut (cutOff : Kind .truncated) {α : Type} {name : String}
    {value cut : List Char} {seen : α}
    {next : String × List Char → Except DecodeError (α × List Char)}
    (whole : cut ++ lost = memberText name value ++ rest)
    (behind : ∀ left, left ++ lost = ':' :: (value ++ rest) →
      ReadsCut (RunsOut Kind) seen rest lost (next (name, left))) :
    ReadsCut (RunsOut Kind) seen rest lost (readString cut >>= next) := by
  -- The name is a string of its own, which is cut as strings are.
  have text : memberText name value ++ rest =
      name.toList.flatMap escapeChar ++ '"' :: ':' :: (value ++ rest) := by
    simp [memberText]
  have read := readString_quoted name.toList (':' :: (value ++ rest))
  rw [← text, ← whole, String.ofList_toList] at read
  exact (readString_cut cutOff read).bind (fun refused => refused.bind.runsOut) behind

end Objects

/-- The texts of all members that are written run out where they are cut off. -/
def Fields.Cut {αs : List Type} (Kind : DecodeError → Prop) (depth : Nat) :
    Fields αs → Tuple αs → Prop
  | .nil, () => True
  | .cons field fields, (value, values) =>
    (field.hidden value = false → field.codec.Cuts (RunsOut Kind) depth value) ∧
      fields.Cut Kind depth values

section Records

variable {β : Type} {αs : List Type} {depth room : Nat} {Kind : DecodeError → Prop}
  {fields : Fields αs} {values : Tuple αs}

/-- A member of a record that is cut off behind its name runs out of text. -/
theorem Fields.readMember_cut (cutOff : Kind .truncated) (cuts : fields.Cut Kind depth values)
    (returns : fields.Returns depth values) (distinct : fields.names.Nodup) (enough : depth ≤ room)
    {name : String} {text left lost rest : List Char} {slots later : Slots αs}
    (written : (name, text) ∈ fields.members values) (follows : Follows rest)
    (read : fields.readMember room name slots (':' :: (text ++ rest)) = .ok (later, rest))
    (whole : left ++ lost = ':' :: (text ++ rest)) :
    ReadsCut (RunsOut Kind) later rest lost (fields.readMember room name slots left) := by
  induction fields with
  | nil => cases written
  | cons field fields ih =>
    obtain ⟨value, values⟩ := values
    obtain ⟨slot, slots⟩ := slots
    obtain ⟨cut, cuts⟩ := cuts
    obtain ⟨own, returns⟩ := returns
    obtain ⟨fresh, distinct⟩ := List.nodup_cons.mp distinct
    simp only [members] at written
    simp only [readMember] at read ⊢
    by_cases same : field.name = name
    · rw [if_pos same] at read ⊢
      cases slot with
      | some _ => cases read
      | none =>
        -- The first name is the name of none of the other members, so this is the first one.
        have elsewhere : (name, text) ∉ fields.members values :=
          fun inside => fresh (same ▸ name_mem_names inside)
        obtain ⟨shown, rfl⟩ : field.hidden value = false ∧ text = field.codec.write value := by
          split at written
          · exact absurd written elsewhere
          · rename_i shown
            rcases List.mem_cons.mp written with first | inside
            · exact ⟨Bool.eq_false_iff.mpr shown, (Prod.mk.inj first).2⟩
            · exact absurd inside elsewhere
        obtain rfl : later = (some value, slots) := by
          have first := (own.written shown).reads room rest enough follows
          have colon : readColon (':' :: (field.codec.write value ++ rest)) =
              .ok (field.codec.write value ++ rest) := rfl
          simp only [bind, Except.bind, colon, first] at read
          cases read
          rfl
        cases left with
        | nil => exact .inside (.inl (.error cutOff))
        | cons c left =>
          obtain ⟨rfl, behind⟩ := List.cons.inj whole
          exact (cut shown enough follows behind).wrap fun value => (some value, slots)
    · rw [if_neg same] at read ⊢
      have inside : (name, text) ∈ fields.members values := by
        split at written
        · exact written
        · rcases List.mem_cons.mp written with first | inside
          · exact absurd (Prod.mk.inj first).1.symm same
          · exact inside
      obtain ⟨⟨others, behind⟩, inner, result⟩ := bind_eq_ok_iff.mp read
      cases result
      exact (ih cuts returns distinct inside inner).wrap fun slots => (slot, slots)

/-- Members that fill the slots of a record are cut off one by one. -/
theorem Fields.Fills.cutsAlong (cutOff : Kind .truncated) (cuts : fields.Cut Kind depth values)
    (returns : fields.Returns depth values) (distinct : fields.names.Nodup) (enough : depth ≤ room)
    {members : List (String × List Char)} {slots later : Slots αs}
    (fills : fields.Fills room slots members later)
    (written : ∀ member ∈ members, member ∈ fields.members values) :
    CutsAlong Kind (fun slots text => do
        let (name, text) ← readString text
        fields.readMember room name slots text) slots
      (members.map fun member => memberText member.1 member.2) later := by
  -- The induction is on the members that fill the slots.
  induction fills with
  | nothing slots => exact .nothing slots
  | @member slots between later name text members read _ ih =>
    obtain ⟨own, others⟩ := List.forall_mem_cons.mp written
    refine .member (fun follows whole => ?_) (ih others)
    exact memberText_cut cutOff whole fun left behind =>
      readMember_cut cutOff cuts returns distinct enough own follows (read _ follows) behind

/-- A record that is cut off runs out of text. -/
theorem Record.cuts {record : Record αs β} {value : β} (cutOff : Kind .truncated)
    (cuts : record.fields.Cut Kind depth (record.parts value))
    (returns : record.fields.Returns depth (record.parts value))
    (distinct : record.fields.names.Nodup) (same : record.make (record.parts value) = value) :
    record.codec.Cuts (Refused Kind) (depth + 1) value := by
  intro room text lost rest enough follows whole
  match room, text, enough, whole with
  | _ + 1, [], _, _ => exact .inside (.error cutOff)
  | room + 1, _ :: text, enough, whole =>
    have inside : depth ≤ room := Nat.le_of_succ_le_succ enough
    obtain ⟨rfl, body⟩ := List.cons.inj whole
    -- The slots are filled as far as the text goes, and full ones make the value.
    have fills := Fields.fills returns distinct inside
    have along := fills.cutsAlong cutOff cuts returns distinct inside fun _ own => own
    have texts : text ++ lost = commaSeparated (((record.fields.members (record.parts value)).map
        fun member => memberText member.1 member.2).map ('"' :: ·)) ++ '}' :: rest := by
      rw [Fields.writeMembers_eq] at body
      simpa [writeMember, memberText, quote, Function.comp_def] using body
    have read : ReadsCut (Refused Kind) (record.parts value) rest lost
        (record.fields.readObject room text) := by
      refine (readObject_cut cutOff along texts).bind Refused.bind fun left behind => ?_
      simp only [Fields.complete_filled returns]
      exact .behind behind
    have made := read.map_refused record.make
    rw [same] at made
    exact made

end Records

end Scoreboard
