import Scoreboard.Document.CurrentState
import Scoreboard.Proofs.Json.Documents

/-! The state document: which texts are decoded to a state, and to which one. -/

namespace Scoreboard

/-- The texts are one, a plain literal of the number. -/
def OneLiteral (texts : List (List Char)) (value : Int64) : Prop :=
  ∃ text, texts = [text] ∧ IntegerText text value.toInt

/-- The texts under the names of the members are those of a state. -/
structure CurrentState.WrittenAs (current : CurrentState) (texts : String → List (List Char)) :
    Prop where
  tick : OneLiteral (texts "current_tick") current.currentTick
  phase : texts "state" = [natDigits current.state.code]
  ends : OneLiteral (texts "current_tick_until") current.currentTickUntil
  scoreboard : OneLiteral (texts "scoreboard_tick") current.scoreboardTick
  banned : match current.bannedTeams with
    | none => texts "banned_teams" = [] ∨ texts "banned_teams" = ["null".toList]
    | some teams => ∃ gap elements, texts "banned_teams" = [listText gap elements] ∧
      List.Forall₂ (fun element team => IntegerText element.value team.toInt) elements teams

section Members

variable {room : Nat} {text rest behind : List Char}

/-- A phase has one code, and that code no other phase. -/
theorem GamePhase.ofCode?_eq_some_iff {code : Nat} {phase : GamePhase} :
    GamePhase.ofCode? code = some phase ↔ code = phase.code := by
  -- The codes and the phases are gone through one by one.
  constructor
  · intro found
    unfold ofCode? at found
    split at found <;> cases found <;> rfl
  · rintro rfl
    cases phase <;> rfl

/-- A phase is read from its code. -/
theorem Codec.phase_exact : Codec.phase.Exact fun _ text phase => text = natDigits phase.code := by
  refine .of_iff (fun gap room text => ?_) fun {room text rest phase behind} written ends => ?_
  · simp only [Codec.phase, readWithin_blanks]
  · have number := fun value behind => @ValueText.readWithin_iff 0 255 value text rest behind
      written ends (by decide) (by decide)
    constructor
    · intro read
      obtain ⟨⟨code, last⟩, inside, judged⟩ := bind_eq_ok_iff.mp read
      obtain ⟨rfl, digits, above, _⟩ := (number _ _).mp inside
      dsimp only at judged
      split at judged
      · rename_i found known
        cases judged
        -- The code is not negative, so its digits are those of a number without a sign.
        have same := GamePhase.ofCode?_eq_some_iff.mp known
        refine ⟨rfl, ?_⟩
        rw [digits, ← same, ← Int.toNat_of_nonneg above]
        rfl
      · cases judged
    · rintro ⟨rfl, rfl⟩
      have below : phase.code ≤ 255 := by cases phase <;> decide
      have inside := (number phase.code behind).mpr ⟨rfl, rfl, by omega, by omega⟩
      refine bind_eq_ok_iff.mpr ⟨_, inside, ?_⟩
      simp only [Int.toNat_natCast, GamePhase.ofCode?_eq_some_iff.mpr rfl]

/-- A list of numbers is read from their literals. -/
theorem takeAll_int64_iff {elements : List Element}
    (written : ∀ element ∈ elements, ValueText element.value) {values : List Int64} :
    Codec.int64.TakeAll room elements values ↔
      List.Forall₂ (fun element value => IntegerText element.value value.toInt) elements values := by
  -- The induction is on the elements, each of which is a literal or nothing is taken.
  induction elements generalizing values with
  | nil => rw [Codec.TakeAll, List.forall₂_nil_left_iff, List.forall₂_nil_left_iff]
  | cons element elements ih =>
    obtain ⟨own, others⟩ := List.forall_mem_cons.mp written
    have behind := fun values => @ih others values
    simp only [Codec.TakeAll] at behind ⊢
    simp only [List.forall₂_cons_left_iff, behind, Codec.int64_exact.takes own, integerText_iff]

/-- Literals are values. -/
theorem ValueText.of_integers {elements : List Element} {values : List Int64}
    (literals : List.Forall₂ (fun element value => IntegerText element.value value.toInt)
      elements values) : ∀ element ∈ elements, ValueText element.value := by
  -- The induction is on the literals, which are the digits of their integers.
  induction literals with
  | nil => exact List.forall_mem_nil _
  | cons own _ ih =>
    refine List.forall_mem_cons.mpr ⟨?_, ih⟩
    rw [integerText_iff.mp own]
    exact .number (numberText_intDigits _)

/-- The banned teams are read from `null` or from the list of their numbers. -/
theorem bannedTeams_exact : (Codec.optional (.list .int64)).Exact fun room text banned =>
    match banned with
    | none => text = "null".toList
    | some teams => ∃ less gap elements, room = less + 1 ∧ text = listText gap elements ∧
      List.Forall₂ (fun element team => IntegerText element.value team.toInt) elements teams := by
  have list := Codec.int64_exact.toLocal.list_exact
  -- No list is written as `null`, so the two ways to write the teams do not overlap.
  have whole := list.toLocal.optional_exact fun taken => nomatch taken
  refine ⟨whole.toLocal, fun {room text banned} written => (whole.takes written).trans ?_⟩
  cases banned with
  | none => exact Iff.rfl
  | some teams =>
    refine (list.takes written).trans ?_
    constructor
    · rintro ⟨less, gap, elements, rfl, rfl, values, all⟩
      exact ⟨less, gap, elements, rfl, rfl, (takeAll_int64_iff values).mp all⟩
    · rintro ⟨less, gap, elements, rfl, rfl, literals⟩
      have values := ValueText.of_integers literals
      exact ⟨less, gap, elements, rfl, rfl, values, (takeAll_int64_iff values).mpr literals⟩

/-- The members of a state document are read from their own texts. -/
theorem CurrentState.fields_local : CurrentState.record.fields.Local :=
  ⟨Codec.int64_exact.toLocal, Codec.phase_exact.toLocal, Codec.int64_exact.toLocal,
    Codec.int64_exact.toLocal, bannedTeams_exact.toLocal, trivial⟩

/-- The members of a state document have different names. -/
theorem CurrentState.names_nodup : CurrentState.record.fields.names.Nodup := by
  decide

/-- A member that has to be there is read from the one text under its name. -/
theorem Field.gives_required_iff {α : Type} {name : String} {codec : Codec α}
    {texts : List (List Char)} {value : α} : (Field.required name codec).Gives room texts value ↔
      ∃ text, texts = [text] ∧ codec.Takes room text value := by
  -- A member that has no default cannot be missing.
  match texts with
  | [] => simp [Gives, required]
  | [text] => simp [Gives, required]
  | _ :: _ :: _ => simp [Gives]

end Members

section Documents

variable {room : Nat} {texts : String → List (List Char)} {current : CurrentState}

/-- A required number is given by one literal of it. -/
theorem oneLiteral_iff (written : ∀ name, ∀ text ∈ texts name, ValueText text) (name : String)
    {value : Int64} :
    (Field.required name Codec.int64).Gives room (texts name) value ↔
      OneLiteral (texts name) value := by
  refine Field.gives_required_iff.trans (exists_congr fun text => and_congr_right fun same => ?_)
  have value := written name text (by rw [same]; exact List.mem_singleton_self text)
  rw [Codec.int64_exact.takes value, integerText_iff]

/-- A required phase is given by the digits of its code. -/
theorem onePhase_iff (written : ∀ name, ∀ text ∈ texts name, ValueText text) (name : String)
    {phase : GamePhase} :
    (Field.required name Codec.phase).Gives room (texts name) phase ↔
      texts name = [natDigits phase.code] := by
  -- The one text under the name is a value, which is a phase only with these digits.
  rw [Field.gives_required_iff]
  constructor
  · rintro ⟨text, same, taken⟩
    have value := written name text (by rw [same]; exact List.mem_singleton_self text)
    rw [same, (Codec.phase_exact.takes value).mp taken]
  · intro same
    have value := written name _ (by rw [same]; exact List.mem_singleton_self _)
    exact ⟨_, same, (Codec.phase_exact.takes value).mpr rfl⟩

/-- The member of the banned teams, which may be missing. -/
def CurrentState.bannedField : Field (Option (List Int64)) :=
  ⟨"banned_teams", Codec.optional (.list .int64), some none, some none, Option.isNone⟩

/-- Banned teams are given by one list of literals, and `null` or nothing gives none. -/
theorem CurrentState.gives_banned_iff (written : ∀ name, ∀ text ∈ texts name, ValueText text)
    {banned : Option (List Int64)} :
    bannedField.Gives (room + 1) (texts "banned_teams") banned ↔
      match banned with
      | none => texts "banned_teams" = [] ∨ texts "banned_teams" = ["null".toList]
      | some teams => ∃ gap elements, texts "banned_teams" = [listText gap elements] ∧
        List.Forall₂ (fun element team => IntegerText element.value team.toInt) elements teams := by
  have values := written "banned_teams"
  generalize texts "banned_teams" = listed at values
  match listed with
  | [] =>
    -- A missing member says the same as `null`.
    cases banned <;> simp [Field.Gives, bannedField]
  | [text] =>
    refine (bannedTeams_exact.takes (values text (List.mem_singleton_self text))).trans ?_
    cases banned <;> simp
  | _ :: _ :: _ => cases banned <;> simp [Field.Gives]

/-- The texts under the names give the members of a state when they are those of the state. -/
theorem CurrentState.give_iff (written : ∀ name, ∀ text ∈ texts name, ValueText text) :
    (∃ values, CurrentState.record.fields.Give (room + 1) texts values ∧
      CurrentState.record.make values = current) ↔ current.WrittenAs texts := by
  -- Each member is given by the texts under its own name.
  constructor
  · rintro ⟨⟨tick, phase, ends, scoreboard, banned, ⟨⟩⟩, ⟨one, two, three, four, five, _⟩, rfl⟩
    exact ⟨(oneLiteral_iff written _).mp one, (onePhase_iff written _).mp two,
      (oneLiteral_iff written _).mp three, (oneLiteral_iff written _).mp four,
      (gives_banned_iff written).mp five⟩
  · rintro ⟨one, two, three, four, five⟩
    exact ⟨(current.currentTick, current.state, current.currentTickUntil, current.scoreboardTick,
      current.bannedTeams, ()), ⟨(oneLiteral_iff written _).mpr one,
      (onePhase_iff written _).mpr two, (oneLiteral_iff written _).mpr three,
      (oneLiteral_iff written _).mpr four, (gives_banned_iff written).mpr five, trivial⟩, rfl⟩

/-- Nothing but the texts under the names of the members tells how a state is written. -/
theorem CurrentState.WrittenAs.congr {others : String → List (List Char)}
    (same : ∀ name ∈ CurrentState.record.fields.names, others name = texts name)
    (stated : current.WrittenAs texts) : current.WrittenAs others := by
  -- Each part looks at the texts under one of the names.
  obtain ⟨tick, phase, ends, scoreboard, banned⟩ := stated
  rw [← same "current_tick" (by decide)] at tick
  rw [← same "state" (by decide)] at phase
  rw [← same "current_tick_until" (by decide)] at ends
  rw [← same "scoreboard_tick" (by decide)] at scoreboard
  rw [← same "banned_teams" (by decide)] at banned
  exact ⟨tick, phase, ends, scoreboard, banned⟩

/-- What the texts give, they give as well in the order of the members. -/
theorem CurrentState.fit_of_give {values}
    (gives : CurrentState.record.fields.Give room texts values) :
    CurrentState.record.fields.Fit room (CurrentState.record.fields.names.flatMap texts) values := by
  obtain ⟨tick, phase, ends, scoreboard, banned, ⟨⟩⟩ := values
  obtain ⟨one, two, three, four, five, _⟩ := gives
  -- The first four members have one text each, so they fill four places of the list.
  obtain ⟨first, sameFirst, takenFirst⟩ : ∃ text, texts "current_tick" = [text] ∧ _ :=
    Field.gives_required_iff.mp one
  obtain ⟨second, sameSecond, takenSecond⟩ : ∃ text, texts "state" = [text] ∧ _ :=
    Field.gives_required_iff.mp two
  obtain ⟨third, sameThird, takenThird⟩ : ∃ text, texts "current_tick_until" = [text] ∧ _ :=
    Field.gives_required_iff.mp three
  obtain ⟨fourth, sameFourth, takenFourth⟩ : ∃ text, texts "scoreboard_tick" = [text] ∧ _ :=
    Field.gives_required_iff.mp four
  have listed : CurrentState.record.fields.names.flatMap texts =
      first :: second :: third :: fourth :: texts "banned_teams" := by
    have inOrder : CurrentState.record.fields.names.flatMap texts =
        texts "current_tick" ++ (texts "state" ++ (texts "current_tick_until" ++
          (texts "scoreboard_tick" ++ (texts "banned_teams" ++ [])))) := rfl
    rw [inOrder, sameFirst, sameSecond, sameThird, sameFourth, List.append_nil]
    rfl
  rw [listed]
  refine ⟨takenFirst, takenSecond, takenThird, takenFourth, ?_⟩
  replace five : bannedField.Gives room (texts "banned_teams") banned := five
  -- A list may stop in front of the banned teams, which then are missing as in an object.
  match texts "banned_teams", five with
  | [], missing => exact ⟨missing, rfl⟩
  | [text], taken => exact ⟨taken, rfl⟩

end Documents

/--
An object is decoded to a state exactly when its members write that state down.

What else is in the object, its blanks and the order of its members make no difference.
The list of the same values in order is decoded to the same state.
-/
theorem state_documents_decoded {document : ObjectDocument} {entries : List (String × List Char)}
    (states : List.Forall₂ Member.States document.members entries) :
    (∀ current, Codec.currentState.decode document.text = .ok current ↔
      current.WrittenAs (occurrences entries)) ∧
    (∀ {other : ObjectDocument} {others : List (String × List Char)},
      List.Forall₂ Member.States other.members others →
      (∀ name ∈ CurrentState.record.fields.names,
        occurrences others name = occurrences entries name) →
      ∀ current, Codec.currentState.decode other.text = .ok current ↔
        Codec.currentState.decode document.text = .ok current) ∧
    (∀ {list : ListDocument},
      list.elements.map Element.value =
        CurrentState.record.fields.names.flatMap (occurrences entries) →
      ∀ current, Codec.currentState.decode document.text = .ok current →
        Codec.currentState.decode list.text = .ok current) := by
  -- What is said of one object is said of the other one as well.
  have object : ∀ {document : ObjectDocument} {entries : List (String × List Char)},
      List.Forall₂ Member.States document.members entries → ∀ current,
        (Codec.currentState.decode document.text = .ok current ↔
          current.WrittenAs (occurrences entries)) :=
    fun states current =>
      (ObjectDocument.decode_iff CurrentState.fields_local CurrentState.names_nodup states).trans
        (CurrentState.give_iff (ObjectDocument.valueText states))
  refine ⟨object states, fun {other others} statesToo same current => ?_,
    fun {list} same current decoded => ?_⟩
  · rw [object states, object statesToo]
    exact ⟨fun stated => stated.congr fun name listed => (same name listed).symm,
      fun stated => stated.congr same⟩
  · -- The elements of the list are the texts under the names, in the order of the members.
    obtain ⟨values, gives, rfl⟩ := (ObjectDocument.decode_iff CurrentState.fields_local
      CurrentState.names_nodup states).mp decoded
    refine (ListDocument.decode_iff CurrentState.fields_local CurrentState.names_nodup).mpr
      ⟨values, ?_, rfl⟩
    rw [same]
    exact CurrentState.fit_of_give gives

/-- A name with an escaped letter is still that name. -/
theorem spells_state : Spells "st\\u0061te".toList "state".toList := by
  -- The escape stands for the letter, and the other letters stand for themselves.
  have escaped : Spells ('\\' :: 'u' :: (['0', '0', '6', '1'] ++ ['t', 'e'])) ['a', 't', 'e'] :=
    .unit (show SpellsUnit _ 0x61 from ⟨rfl, by decide⟩) (by decide) (by decide)
      (.plainly (by decide))
  exact .plain (by decide) (by decide) (by decide)
    (.plain (by decide) (by decide) (by decide) escaped)

/-- A state with its members in another order, an escape in a name, and a member of no meaning. -/
def shuffledState : ObjectDocument where
  before := .none
  gap := .none
  members := [.dense "st\\u0061te" "3", .dense "scoreboard_tick" "4", .dense "round" "-0.5e7",
    .dense "current_tick_until" "60", .dense "current_tick" "5"]
  after := .none
  names := by
    have plain : ∀ {chars}, chars.all needsNoEscape = true → StringBody chars :=
      fun plain => (Spells.plainly plain).stringBody
    simp only [List.forall_mem_cons]
    exact ⟨spells_state.stringBody, plain (by decide), plain (by decide),
      plain (by decide), plain (by decide), List.forall_mem_nil _⟩
  written := by
    have other : ValueText "-0.5e7".toList := .number (.parts (.inr rfl) .zero
      (.point ⟨List.cons_ne_nil '5' [], List.all_eq_true.mp rfl⟩)
      (.mark (.inl rfl) (.inl rfl) ⟨List.cons_ne_nil '7' [], List.all_eq_true.mp rfl⟩))
    simp only [List.forall_mem_cons]
    exact ⟨valueText_literal 3 (by decide), valueText_literal 4 (by decide), other,
      valueText_literal 60 (by decide), valueText_literal 5 (by decide), List.forall_mem_nil _⟩

/-- The same state as a list of its values. -/
def listedState : ListDocument where
  before := .none
  gap := .none
  elements := ["5", "3", "60", "4"].map fun value => ⟨.none, value.toList, .none⟩
  after := .none
  written := by
    simp only [List.map_cons, List.forall_mem_cons]
    exact ⟨valueText_literal 5 (by decide), valueText_literal 3 (by decide),
      valueText_literal 60 (by decide), valueText_literal 4 (by decide), List.forall_mem_nil _⟩

/-- Members out of order, one of them unknown and one escaped, and a list say the same state. -/
theorem shuffled_state_decoded :
    shuffledState.text = "\x7b\"st\\u0061te\":3,\"scoreboard_tick\":4,\"round\":-0.5e7,\"current_tick_until\":60,\"current_tick\":5\x7d".toList ∧
    Codec.currentState.decode shuffledState.text = .ok ⟨5, .running, 60, 4, none⟩ ∧
    listedState.text = "[5,3,60,4]".toList ∧
    Codec.currentState.decode listedState.text = .ok ⟨5, .running, 60, 4, none⟩ := by
  -- The entries of the object are written out, and the theorem asks for their literals.
  have plain : ∀ name : String, name.toList.all needsNoEscape = true → ∀ value,
      (Member.dense name value).States (name, value.toList) :=
    fun name plain value => ⟨.plainly plain, rfl⟩
  have states : List.Forall₂ Member.States shuffledState.members
      [("state", "3".toList), ("scoreboard_tick", "4".toList), ("round", "-0.5e7".toList),
        ("current_tick_until", "60".toList), ("current_tick", "5".toList)] :=
    .cons ⟨spells_state, rfl⟩ <| .cons (plain _ (by decide) _) <| .cons (plain _ (by decide) _) <|
      .cons (plain _ (by decide) _) <| .cons (plain _ (by decide) _) .nil
  have literal : ∀ {text : String} (value : Int64), text.toList = intDigits value.toInt →
      OneLiteral [text.toList] value := fun value same => ⟨_, rfl, integerText_iff.mpr same⟩
  obtain ⟨object, -, list⟩ := state_documents_decoded states
  have decoded := (object ⟨5, .running, 60, 4, none⟩).mpr ⟨literal 5 (by decide), by decide,
    literal 60 (by decide), literal 4 (by decide), .inl (by decide)⟩
  exact ⟨by decide, decoded, by decide, @list listedState (by decide) _ decoded⟩

end Scoreboard
