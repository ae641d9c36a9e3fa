import Scoreboard.Proofs.Json.Entries

/-! Records: each member is read from its own occurrence in an object, or from its place in a list. -/

namespace Scoreboard

section Objects

variable {α β : Type} {αs : List Type} {field : Field α} {fields : Fields αs} {room : Nat}
  {name : String} {rest behind : List Char}

/-- An entry of another name than any of the members leaves all slots alone. -/
theorem Fields.enter_of_not_mem {slots later : Slots αs} {text : List Char}
    (fresh : name ∉ fields.names) : fields.Enter room slots (name, text) later ↔ later = slots := by
  induction fields with
  | nil => exact iff_of_true trivial rfl
  | cons field fields ih =>
    obtain ⟨slot, slots⟩ := slots
    obtain ⟨own, laters⟩ := later
    -- Neither the first member nor one behind it has the name.
    obtain ⟨other, fresh⟩ := not_or.mp (mt List.mem_cons.mpr fresh)
    rw [Enter, Field.Enters, if_neg (Ne.symm other), ih fresh]
    exact Prod.mk.injEq _ _ _ _ ▸ Iff.rfl

/-- An entry that no member has taken is passed over. -/
theorem readMember_nil_iff {content : Element} (between : Blanks) (written : ValueText content.value)
    (ends : Ends rest) {slots later : Slots []} :
    Fields.nil.readMember room name slots (between.text ++ ':' :: (content.text ++ rest)) =
      .ok (later, behind) ↔ behind = content.after.text ++ rest := by
  -- The colon is read and the value is skipped, and neither depends on a slot.
  have colon := readColon_behind between (content.text ++ rest)
  have skipped := skipValue_element written ends
  constructor
  · intro read
    obtain ⟨_, start, read⟩ := bind_eq_ok_iff.mp read
    cases colon.symm.trans start
    obtain ⟨_, value, same⟩ := bind_eq_ok_iff.mp read
    cases skipped.symm.trans value
    cases same
    rfl
  · rintro rfl
    exact bind_eq_ok_iff.mpr ⟨_, colon, bind_eq_ok_iff.mpr ⟨_, skipped, rfl⟩⟩

/-- An entry of an object is read into the slot of its name, or passed over if there is none. -/
theorem Fields.readMember_iff (inner : fields.Local) (distinct : fields.names.Nodup)
    {content : Element} (between : Blanks) (written : ValueText content.value) (ends : Ends rest)
    {slots later : Slots αs} :
    fields.readMember room name slots (between.text ++ ':' :: (content.text ++ rest)) =
        .ok (later, behind) ↔
      behind = content.after.text ++ rest ∧ fields.Enter room slots (name, content.value) later := by
  -- The induction is on the members, each of which takes the entry or leaves it to the others.
  have colon := readColon_behind between (content.text ++ rest)
  induction fields with
  | nil =>
    rw [readMember_nil_iff between written ends]
    exact (and_iff_left trivial).symm
  | cons field fields ih =>
    obtain ⟨slot, slots⟩ := slots
    obtain ⟨own, laters⟩ := later
    obtain ⟨inner, innerOthers⟩ := inner
    obtain ⟨fresh, distinct⟩ := List.nodup_cons.mp distinct
    rw [Enter, Field.Enters]
    by_cases same : field.name = name
    · -- The entry is the first member's, and no other member has this name.
      subst same
      simp only [readMember, if_true, enter_of_not_mem fresh]
      cases slot with
      | some filled => simp
      | none =>
        constructor
        · intro read
          obtain ⟨_, start, read⟩ := bind_eq_ok_iff.mp read
          cases colon.symm.trans start
          obtain ⟨⟨value, middle⟩, element, same⟩ := bind_eq_ok_iff.mp read
          cases same
          obtain ⟨rfl, taken⟩ := (inner.reads_element written ends).mp element
          exact ⟨rfl, ⟨rfl, value, taken, rfl⟩, rfl⟩
        · rintro ⟨rfl, ⟨_, value, taken, rfl⟩, rfl⟩
          have element := (inner.reads_element written ends).mpr ⟨rfl, taken⟩
          exact bind_eq_ok_iff.mpr ⟨_, colon, bind_eq_ok_iff.mpr ⟨_, element, rfl⟩⟩
    · -- The entry is left to the other members.
      simp only [readMember, if_neg same]
      constructor
      · intro read
        obtain ⟨⟨between, middle⟩, others, same⟩ := bind_eq_ok_iff.mp read
        cases same
        obtain ⟨rfl, entered⟩ := (ih innerOthers distinct).mp others
        exact ⟨rfl, rfl, entered⟩
      · rintro ⟨rfl, rfl, entered⟩
        exact bind_eq_ok_iff.mpr ⟨_, (ih innerOthers distinct).mpr ⟨rfl, entered⟩, rfl⟩

/-- A member of an object does what the entry does that it is written for. -/
def Fields.Step (room : Nat) (fields : Fields αs) (slots : Slots αs) (member : Member)
    (later : Slots αs) : Prop :=
  ∃ name : String, Spells member.name name.toList ∧
    fields.Enter room slots (name, member.content.value) later

/-- Members are read along an object, each by its name. -/
theorem Fields.stepsAlong (inner : fields.Local) (distinct : fields.names.Nodup)
    {members : List Member} (names : ∀ member ∈ members, StringBody member.name)
    (written : ∀ member ∈ members, ValueText member.content.value) :
    StepsAlong (fun slots text => do
      let (name, text) ← readString text
      fields.readMember room name slots text) (fields.Step room) members := by
  -- The name is read as a string, and the member by what the string says.
  intro own inside slots later rest behind ends
  have between : own.named ++ rest =
      own.name ++ '"' :: (own.between.text ++ ':' :: (own.content.text ++ rest)) := by
    simp [Member.named]
  have entry := fun (name : String) behind => @readMember_iff αs fields room name rest behind
    inner distinct own.content own.between (written own inside) ends slots later
  rw [between]
  constructor
  · intro read
    obtain ⟨⟨name, middle⟩, string, read⟩ := bind_eq_ok_iff.mp read
    obtain ⟨rfl, spells⟩ := (names own inside).readString_iff.mp string
    obtain ⟨rfl, entered⟩ := (entry name _).mp read
    exact ⟨rfl, name, spells, entered⟩
  · rintro ⟨rfl, name, spells, entered⟩
    exact bind_eq_ok_iff.mpr ⟨_, (names own inside).readString_iff.mpr ⟨rfl, spells⟩,
      (entry name _).mpr ⟨rfl, entered⟩⟩

/-- Members lead from slots to slots as the entries do that they are written for. -/
theorem Fields.leads_step_iff {members : List Member} {entries : List (String × List Char)}
    (states : List.Forall₂ Member.States members entries) {slots later : Slots αs} :
    Leads (fields.Step room) slots members later ↔ Leads (fields.Enter room) slots entries later := by
  induction states generalizing slots with
  | nil => rw [leads_nil_iff, leads_nil_iff]
  | @cons member entry members entries own others ih =>
    rw [leads_cons_iff, leads_cons_iff]
    -- The name that is spelled in a member is one only.
    have step : ∀ between, fields.Step room slots member between ↔
        fields.Enter room slots entry between := by
      intro between
      rw [Step, ← own.text]
      constructor
      · rintro ⟨name, spells, entered⟩
        have same : name = entry.1 := String.toList_inj.mp (spells.unique own.named)
        rwa [same] at entered
      · exact fun entered => ⟨entry.1, own.named, entered⟩
    simp only [step, ih]

/-- The members make a value of the record: they fill the slots, and the slots are complete. -/
def Record.TakesMembers (record : Record αs β) (room : Nat) (members : List Member) (value : β) :
    Prop :=
  ∃ slots values, Leads (record.fields.Step room) record.fields.empty members slots ∧
    record.fields.complete slots = .ok values ∧ record.make values = value

/-- Members make a record exactly when their entries give its values. -/
theorem Record.takesMembers_iff {record : Record αs β} {members : List Member}
    {entries : List (String × List Char)} (states : List.Forall₂ Member.States members entries)
    {value : β} : record.TakesMembers room members value ↔
      ∃ values, record.fields.Give room (occurrences entries) values ∧
        record.make values = value := by
  -- The slots that the members fill are those that the entries fill.
  simp only [TakesMembers, Fields.leads_step_iff states, ← Fields.give_iff]
  constructor
  · rintro ⟨slots, values, leads, complete, same⟩
    exact ⟨values, ⟨slots, leads, complete⟩, same⟩
  · rintro ⟨values, ⟨slots, leads, complete⟩, same⟩
    exact ⟨slots, values, leads, complete, same⟩

/-- A record whose text opens with a brace is read from the members of an object. -/
theorem Record.read_brace (record : Record αs β) (room : Nat) (text : List Char) :
    record.codec.read (room + 1) ('{' :: text) =
      (record.fields.readObject room text).map fun (values, rest) => (record.make values, rest) :=
  rfl

/-- A record is read from an object, with one level less to open inside. -/
theorem Record.read_objectText {record : Record αs β} (inner : record.fields.Local)
    (distinct : record.fields.names.Nodup) (gap : Blanks) {members : List Member}
    (names : ∀ member ∈ members, StringBody member.name)
    (written : ∀ member ∈ members, ValueText member.content.value) {value : β} :
    record.codec.read (room + 1) (objectText gap members ++ rest) = .ok (value, behind) ↔
      behind = rest ∧ record.TakesMembers room members value := by
  -- Behind the brace the members fill the slots, which then have to be complete.
  have steps := @Fields.stepsAlong αs record.fields room inner distinct members names written
  have object := fun later behind =>
    @readObject_iff _ _ _ members record.fields.empty later rest behind steps gap
  rw [objectText, List.cons_append, List.append_assoc, Record.read_brace]
  constructor
  · intro read
    obtain ⟨⟨values, last⟩, inside, same⟩ := map_eq_ok_iff.mp read
    obtain ⟨⟨slots, middle⟩, all, ended⟩ := bind_eq_ok_iff.mp inside
    obtain ⟨values, complete, kept⟩ := bind_eq_ok_iff.mp ended
    cases same
    cases kept
    obtain ⟨rfl, leads⟩ := (object _ _).mp all
    exact ⟨rfl, slots, values, leads, complete, rfl⟩
  · rintro ⟨rfl, slots, values, leads, complete, rfl⟩
    exact map_eq_ok_iff.mpr ⟨_, bind_eq_ok_iff.mpr ⟨_, (object _ _).mpr ⟨rfl, leads⟩,
      bind_eq_ok_iff.mpr ⟨_, complete, rfl⟩⟩, rfl⟩

end Objects

section Lists

variable {α β : Type} {αs : List Type} {field : Field α} {fields : Fields αs} {room index : Nat}
  {first : Bool} {elements : List Element} {text rest behind : List Char}

/-- A text goes on with elements up to a closing bracket, the first of which is what comes next. -/
def ListGoesOn (first : Bool) (rest : List Char) : List Element → List Char → Prop
  | [], text => dropBlanks text = ']' :: rest
  | element :: elements, text =>
    nextElement first text = .ok (some (element.value ++ (element.after.text ++
        ((elements.map Element.text).flatMap (',' :: ·) ++ ']' :: rest)))) ∧
      ∀ behind, closeList text ≠ .ok behind

/-- Between brackets a list goes on with its first element. -/
theorem listGoesOn_enclosed (gap : Blanks) (written : ∀ element ∈ elements, ValueText element.value) :
    ListGoesOn true rest elements (enclosed gap (elements.map Element.text) ++ ']' :: rest) := by
  cases elements with
  | nil => exact gap.dropBlanks_append _
  | cons element elements =>
    have own := written element List.mem_cons_self
    rw [List.map_cons, enclosed_cons, List.append_assoc]
    refine ⟨element.nextElement_first own _, fun behind closed => ?_⟩
    -- No value starts with a closing bracket.
    obtain ⟨c, others, value, opens⟩ := own.head
    simp only [closeList, element.dropBlanks_append own, value, List.cons_append] at closed
    split at closed
    · cases closed
    · rename_i same
      cases same
      exact opens.2.2.1 rfl
    · cases closed

/-- Behind an element a list goes on with a comma and the next element. -/
theorem listGoesOn_behind (gap : Blanks) (written : ∀ element ∈ elements, ValueText element.value) :
    ListGoesOn false rest elements
      (gap.text ++ ((elements.map Element.text).flatMap (',' :: ·) ++ ']' :: rest)) := by
  -- Without another element the bracket closes the list behind the blanks.
  cases elements with
  | nil => exact gap.dropBlanks_append _
  | cons element elements =>
    have own := written element List.mem_cons_self
    rw [List.map_cons, commas_cons_append]
    refine ⟨(nextElement_blanks gap _).trans (element.nextElement_comma own _), ?_⟩
    intro behind closed
    rw [closeList_blanks] at closed
    cases closed

/-- The values of all members are read from a list, which closes behind them. -/
def Fields.ReadsWhole (fields : Fields αs) (room index : Nat) (text : List Char)
    (values : Tuple αs) (behind : List Char) : Prop :=
  ∃ rest, fields.readList room index text = .ok (values, rest) ∧ closeList rest = .ok behind

/-- Where an element is found, it is the next value, and the others stand behind it. -/
theorem Fields.readsWhole_some {value : α} {values : Tuple αs} {next : List Char}
    (found : nextElement (index == 0) text = .ok (some next)) :
    (Fields.cons field fields).ReadsWhole room index text (value, values) behind ↔
      ∃ between, field.codec.read room next = .ok (value, between) ∧
        fields.ReadsWhole room (index + 1) between values behind := by
  -- The reader asks for an element, reads the value from it and goes on.
  constructor
  · rintro ⟨rest, read, closed⟩
    obtain ⟨_, start, read⟩ := bind_eq_ok_iff.mp read
    cases found.symm.trans start
    obtain ⟨⟨own, between⟩, element, read⟩ := bind_eq_ok_iff.mp read
    obtain ⟨⟨others, last⟩, list, same⟩ := bind_eq_ok_iff.mp read
    cases same
    exact ⟨between, element, _, list, closed⟩
  · rintro ⟨between, element, rest, list, closed⟩
    exact ⟨rest, bind_eq_ok_iff.mpr ⟨_, found, bind_eq_ok_iff.mpr ⟨_, element,
      bind_eq_ok_iff.mpr ⟨_, list, rfl⟩⟩⟩, closed⟩

/-- Where no element is found, the value is the one for lists that are cut short. -/
theorem Fields.readsWhole_none {value : α} {values : Tuple αs}
    (found : nextElement (index == 0) text = .ok none) :
    (Fields.cons field fields).ReadsWhole room index text (value, values) behind ↔
      field.cut = some value ∧ fields.ReadsWhole room (index + 1) text values behind := by
  constructor
  · rintro ⟨rest, read, closed⟩
    obtain ⟨_, start, read⟩ := bind_eq_ok_iff.mp read
    cases found.symm.trans start
    -- A member that cannot be cut is missing, and the list is refused.
    dsimp only at read
    split at read
    · cases read
    · rename_i own cut
      obtain ⟨⟨others, last⟩, list, same⟩ := bind_eq_ok_iff.mp read
      cases same
      exact ⟨cut, _, list, closed⟩
  · rintro ⟨cut, rest, list, closed⟩
    refine ⟨rest, bind_eq_ok_iff.mpr ⟨_, found, ?_⟩, closed⟩
    simp only [cut]
    exact bind_eq_ok_iff.mpr ⟨_, list, rfl⟩

/-- The members are read from the elements of a list in order. -/
theorem Fields.readsWhole_iff (inner : fields.Local)
    (written : ∀ element ∈ elements, ValueText element.value)
    (goes : ListGoesOn (index == 0) rest elements text) {values : Tuple αs} :
    fields.ReadsWhole room index text values behind ↔
      behind = rest ∧ fields.Fit room (elements.map Element.value) values := by
  -- Members and elements come in pairs until one of the two runs out.
  induction fields generalizing index elements text with
  | nil =>
    have whole : Fields.nil.ReadsWhole room index text values behind ↔ closeList text = .ok behind :=
      ⟨fun ⟨_, read, closed⟩ => by cases read; exact closed, fun closed => ⟨text, rfl, closed⟩⟩
    rw [whole]
    cases elements with
    | nil =>
      have closes : dropBlanks text = ']' :: rest := goes
      simp only [closeList, closes, Except.ok.injEq]
      exact ⟨fun same => ⟨same.symm, rfl⟩, fun same => same.1.symm⟩
    | cons element elements =>
      -- An element too many stands where the list would have to close.
      exact iff_of_false (goes.2 behind) fun fits => nomatch fits.2
  | cons field fields ih =>
    obtain ⟨value, values⟩ := values
    obtain ⟨own, others⟩ := inner
    cases elements with
    | nil =>
      -- The list closes before the member, which then has the value it is cut to.
      have none : nextElement (index == 0) text = .ok none := by
        have closes : dropBlanks text = ']' :: rest := goes
        simp only [nextElement, closes]
      rw [readsWhole_none none, ih others written (by exact goes)]
      exact and_left_comm
    | cons element elements =>
      obtain ⟨value', written⟩ := List.forall_mem_cons.mp written
      have follows : Ends ((elements.map Element.text).flatMap (',' :: ·) ++ ']' :: rest) :=
        ends_parts _ (ends_cons (.inr (.inl rfl)))
      have reads := fun value behind => @own.reads room element.value _ value behind value'
        (follows.append element.after)
      have later : ListGoesOn (index + 1 == 0) rest elements (element.after.text ++
          ((elements.map Element.text).flatMap (',' :: ·) ++ ']' :: rest)) :=
        listGoesOn_behind element.after written
      rw [readsWhole_some goes.1]
      constructor
      · rintro ⟨between, read, whole⟩
        obtain ⟨rfl, taken⟩ := (reads _ _).mp read
        obtain ⟨rfl, fits⟩ := (ih others written later).mp whole
        exact ⟨rfl, taken, fits⟩
      · rintro ⟨rfl, taken, fits⟩
        exact ⟨_, (reads _ _).mpr ⟨rfl, taken⟩, (ih others written later).mpr ⟨rfl, fits⟩⟩

/-- A record whose text opens with a bracket is read from the elements of a list. -/
theorem Record.read_bracket (record : Record αs β) (room : Nat) (text : List Char) :
    record.codec.read (room + 1) ('[' :: text) =
      (record.fields.readList room 0 text >>= fun (values, rest) =>
        closeList rest >>= fun rest => .ok (record.make values, rest)) :=
  rfl

/-- A record is read from a list too, with one level less to open inside. -/
theorem Record.read_listText {record : Record αs β} (inner : record.fields.Local) (gap : Blanks)
    (written : ∀ element ∈ elements, ValueText element.value) {value : β} :
    record.codec.read (room + 1) (listText gap elements ++ rest) = .ok (value, behind) ↔
      behind = rest ∧ ∃ values, record.fields.Fit room (elements.map Element.value) values ∧
        record.make values = value := by
  -- Behind the bracket the values are read in order, up to the bracket that closes the list.
  have whole := fun values => @Fields.readsWhole_iff _ record.fields room 0 elements _ rest behind
    inner written (listGoesOn_enclosed gap written) values
  rw [listText, List.cons_append, List.append_assoc, Record.read_bracket]
  constructor
  · intro read
    obtain ⟨⟨values, last⟩, list, read⟩ := bind_eq_ok_iff.mp read
    obtain ⟨end', closed, same⟩ := bind_eq_ok_iff.mp read
    cases same
    obtain ⟨rfl, fits⟩ := (whole _).mp ⟨last, list, closed⟩
    exact ⟨rfl, values, fits, rfl⟩
  · rintro ⟨rfl, values, fits, rfl⟩
    obtain ⟨last, list, closed⟩ := (whole _).mpr ⟨rfl, fits⟩
    exact bind_eq_ok_iff.mpr ⟨_, list, bind_eq_ok_iff.mpr ⟨_, closed, rfl⟩⟩

end Lists

section Whole

variable {β : Type} {αs : List Type} {record : Record αs β}

/-- The texts that a record is read from: objects and lists with the values of its members. -/
def Record.Text (record : Record αs β) (room : Nat) (text : List Char) (value : β) : Prop :=
  ∃ less, room = less + 1 ∧
    ((∃ gap members, text = objectText gap members ∧ (∀ member ∈ members, StringBody member.name) ∧
      (∀ member ∈ members, ValueText member.content.value) ∧
        record.TakesMembers less members value) ∨
    ∃ gap elements, text = listText gap elements ∧
      (∀ element ∈ elements, ValueText element.value) ∧
        ∃ values, record.fields.Fit less (elements.map Element.value) values ∧
          record.make values = value)

/-- A record is read from its texts, and from no others. -/
theorem Record.exact (inner : record.fields.Local) (distinct : record.fields.names.Nodup) :
    record.codec.Exact record.Text := by
  refine .of_iff (fun gap room text => ?_) fun {room text rest value behind} written ends => ?_
  · simp only [Record.codec, gap.dropBlanks_append]
  · constructor
    · intro read
      obtain ⟨c, others, rfl, opens⟩ := written.head
      -- The first character tells an object from a list.
      by_cases brace : c = '{'
      · subst brace
        obtain ⟨gap, members, names, values, rfl⟩ := written.continues
        cases room with
        | zero => cases read
        | succ less =>
          obtain ⟨rfl, taken⟩ := (read_objectText inner distinct gap names values).mp read
          exact ⟨rfl, less, rfl, .inl ⟨gap, members, rfl, names, values, taken⟩⟩
      · by_cases bracket : c = '['
        · subst bracket
          obtain ⟨gap, elements, values, rfl⟩ := written.continues
          cases room with
          | zero => cases read
          | succ less =>
            obtain ⟨rfl, fits⟩ := (read_listText inner gap values).mp read
            exact ⟨rfl, less, rfl, .inr ⟨gap, elements, rfl, values, fits⟩⟩
        · -- Everything but an object and a list is refused.
          simp only [Record.codec, List.cons_append, dropBlanks_cons opens.1] at read
          split at read
          · cases read
          · cases read
          · cases read
          · rename_i same
            cases same
            exact absurd rfl bracket
          · rename_i same
            cases same
            exact absurd rfl brace
          · cases read
    · rintro ⟨rfl, less, rfl, object | list⟩
      · obtain ⟨gap, members, rfl, names, values, taken⟩ := object
        exact (read_objectText inner distinct gap names values).mpr ⟨rfl, taken⟩
      · obtain ⟨gap, elements, rfl, values, fits⟩ := list
        exact (read_listText inner gap values).mpr ⟨rfl, fits⟩

end Whole

end Scoreboard
