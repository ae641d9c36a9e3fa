import Scoreboard.Proofs.Json.RoundTrip

/-! What codecs read: every part of a value that is read is a value that its own codec reads. -/

namespace Scoreboard

/-- A value that the codec reads from some text. -/
def Codec.Yields {α : Type} (codec : Codec α) (value : α) : Prop :=
  ∃ room text rest, codec.read room text = .ok (value, rest)

/-- A value of a member: one that is read, or one that stands for a member that is not there. -/
def Field.Yields {α : Type} (field : Field α) (value : α) : Prop :=
  field.codec.Yields value ∨ field.absent = some value ∨ field.cut = some value

/-- One value of each member. -/
def Fields.Yield {αs : List Type} : Fields αs → Tuple αs → Prop
  | .nil, () => True
  | .cons field fields, (value, values) => field.Yields value ∧ fields.Yield values

/-- Slots filled with values that have been read. -/
def Fields.Hold {αs : List Type} : Fields αs → Slots αs → Prop
  | .nil, () => True
  | .cons field fields, (slot, slots) =>
    (∀ value ∈ slot, field.codec.Yields value) ∧ fields.Hold slots

section Reading

variable {α β σ : Type} {αs : List Type} {codec : Codec α} {text rest : List Char}

/-- What is decoded from a text has been read. -/
theorem Codec.yields_of_ofText {text : String} {value : α} (read : codec.ofText text = .ok value) :
    codec.Yields value := by
  -- Decoding is reading, with nothing but blanks left.
  obtain ⟨⟨first, rest⟩, whole, ended⟩ := bind_eq_ok_iff.mp read
  by_cases blank : dropBlanks rest = []
  · simp only [blank, if_true] at ended
    cases ended
    exact ⟨_, _, _, whole⟩
  · simp only [blank, if_false] at ended
    cases ended

/-- Every element of a list that is read has been read itself. -/
theorem yields_of_readElements {room : Nat} {values : List α} : ∀ {turns first text},
    readElements (codec.read room) turns first text = .ok (values, rest) →
      ∀ value ∈ values, codec.Yields value := by
  -- The induction is on the values, each of which took one turn.
  induction values with
  | nil => exact fun _ value member => nomatch member
  | cons head tail ih =>
    intro turns first text read
    cases turns with
    | zero => cases read
    | succ turns =>
      obtain ⟨next, _, read⟩ := bind_eq_ok_iff.mp read
      cases next with
      | none =>
        obtain ⟨_, _, read⟩ := bind_eq_ok_iff.mp read
        cases read
      | some text =>
        obtain ⟨⟨value, behind⟩, own, read⟩ := bind_eq_ok_iff.mp read
        obtain ⟨⟨values, behind⟩, others, read⟩ := bind_eq_ok_iff.mp read
        cases read
        exact List.forall_mem_cons.mpr ⟨⟨_, _, _, own⟩, ih others⟩

/-- Every element of a list has been read. -/
theorem Codec.yields_of_list {values : List α} (yields : (Codec.list codec).Yields values) :
    ∀ value ∈ values, codec.Yields value := by
  -- A list is read behind its bracket, if there is room for it.
  obtain ⟨room, text, rest, read⟩ := yields
  simp only [Codec.list] at read
  split at read
  · cases read
  · split at read
    · cases read
    · exact yields_of_readElements read
  · cases read

/-- What every member keeps is kept by the whole object. -/
theorem readMembers_induct {member : σ → List Char → Except DecodeError (σ × List Char)}
    {Kept : σ → Prop}
    (keeps : ∀ {state text later rest}, Kept state → member state text = .ok (later, rest) →
      Kept later) {turns : Nat} : ∀ {state text later rest}, Kept state →
      readMembers member turns state text = .ok (later, rest) → Kept later := by
  induction turns with
  | zero => exact fun _ read => nomatch read
  | succ turns ih =>
    intro state text later rest kept read
    obtain ⟨⟨next, behind⟩, own, read⟩ := bind_eq_ok_iff.mp read
    have keptNext := keeps kept own
    -- Behind the member the object ends, or a comma and the name of the next one follow.
    simp only at read
    split at read
    · cases read
    · cases read
      exact keptNext
    · split at read
      · cases read
      · exact ih keptNext read
      · cases read
    · cases read

/-- What every member keeps is kept by an object. -/
theorem readObject_induct {member : σ → List Char → Except DecodeError (σ × List Char)}
    {Kept : σ → Prop}
    (keeps : ∀ {state text later rest}, Kept state → member state text = .ok (later, rest) →
      Kept later) {start later : σ} (kept : Kept start)
    (read : readObject member start text = .ok (later, rest)) : Kept later := by
  -- An object without members keeps everything.
  unfold readObject at read
  split at read
  · cases read
  · cases read
    exact kept
  · exact readMembers_induct keeps kept read
  · cases read

end Reading

section Records

variable {β : Type} {αs : List Type} {room : Nat}

/-- Slots without values hold. -/
theorem Fields.hold_empty (fields : Fields αs) : fields.Hold fields.empty := by
  induction fields with
  | nil => trivial
  | cons field fields ih => exact ⟨fun _ member => (nomatch member), ih⟩

/-- A member that is read fills a slot with a value that has been read. -/
theorem Fields.hold_readMember {fields : Fields αs} : ∀ {slots later : Slots αs} {name text rest},
    fields.Hold slots → fields.readMember room name slots text = .ok (later, rest) →
      fields.Hold later := by
  induction fields with
  | nil => exact fun _ _ => trivial
  | cons field fields ih =>
    intro slots later name text rest hold read
    obtain ⟨slot, slots⟩ := slots
    obtain ⟨own, others⟩ := hold
    -- The slot of that name is filled with what was read, and all others stay as they are.
    simp only [readMember] at read
    split at read
    · split at read
      · cases read
      · obtain ⟨behind, _, read⟩ := bind_eq_ok_iff.mp read
        obtain ⟨⟨value, behind⟩, value_read, read⟩ := bind_eq_ok_iff.mp read
        cases read
        refine ⟨fun other member => ?_, others⟩
        cases member
        exact ⟨_, _, _, value_read⟩
    · obtain ⟨⟨between, behind⟩, inner, read⟩ := bind_eq_ok_iff.mp read
      cases read
      exact ⟨own, ih others inner⟩

/-- Slots that hold values that have been read make such values of all members. -/
theorem Fields.Hold.complete {fields : Fields αs} : ∀ {slots : Slots αs} {values : Tuple αs},
    fields.Hold slots → fields.complete slots = .ok values → fields.Yield values := by
  induction fields with
  | nil => exact fun _ _ => trivial
  | cons field fields ih =>
    intro slots values hold completed
    obtain ⟨slot, slots⟩ := slots
    obtain ⟨own, others⟩ := hold
    simp only [Fields.complete] at completed
    split at completed
    · cases completed
    · rename_i value found
      obtain ⟨tail, inner, completed⟩ := bind_eq_ok_iff.mp completed
      cases completed
      refine ⟨?_, ih others inner⟩
      -- Only an empty slot takes what an absent member stands for.
      cases slot with
      | none => exact .inr (.inl found)
      | some filled =>
        cases found
        exact .inl (own _ rfl)

/-- The elements of a list in place of an object are values of the members in order. -/
theorem Fields.yield_of_readList {fields : Fields αs} : ∀ {index text} {values : Tuple αs} {rest},
    fields.readList room index text = .ok (values, rest) → fields.Yield values := by
  -- The induction is on the members, each of which is read or cut short.
  induction fields with
  | nil => exact fun _ => trivial
  | cons field fields ih =>
    intro index text values rest read
    obtain ⟨next, _, read⟩ := bind_eq_ok_iff.mp read
    cases next with
    | some text =>
      obtain ⟨⟨value, behind⟩, own, read⟩ := bind_eq_ok_iff.mp read
      obtain ⟨⟨tail, behind⟩, others, read⟩ := bind_eq_ok_iff.mp read
      cases read
      exact ⟨.inl ⟨_, _, _, own⟩, ih others⟩
    | none =>
      simp only at read
      split at read
      · cases read
      · rename_i value cut
        obtain ⟨⟨tail, behind⟩, others, read⟩ := bind_eq_ok_iff.mp read
        cases read
        exact ⟨.inr (.inr cut), ih others⟩

/-- The members of an object are values of the members, or stand in for them. -/
theorem Fields.yield_of_readObject {fields : Fields αs} {text rest : List Char}
    {values : Tuple αs} (read : fields.readObject room text = .ok (values, rest)) :
    fields.Yield values := by
  obtain ⟨⟨slots, behind⟩, filled, read⟩ := bind_eq_ok_iff.mp read
  obtain ⟨tuple, completed, read⟩ := bind_eq_ok_iff.mp read
  cases read
  -- Each member keeps the slots filled with values that have been read.
  have hold : fields.Hold slots := by
    refine readObject_induct (fun {state text later rest} hold member => ?_)
      fields.hold_empty filled
    obtain ⟨⟨name, behind⟩, _, member⟩ := bind_eq_ok_iff.mp member
    exact Fields.hold_readMember hold member
  exact hold.complete completed

/-- A record that is read is made of values of its members. -/
theorem Record.yields {record : Record αs β} {value : β} (yields : record.codec.Yields value) :
    ∃ values, record.fields.Yield values ∧ record.make values = value := by
  obtain ⟨room, text, rest, read⟩ := yields
  -- A record is written as a list or as an object, and everything else is refused.
  simp only [Record.codec] at read
  split at read
  · cases read
  · cases read
  · cases read
  · obtain ⟨⟨values, behind⟩, list, read⟩ := bind_eq_ok_iff.mp read
    obtain ⟨behind, _, read⟩ := bind_eq_ok_iff.mp read
    cases read
    exact ⟨values, Fields.yield_of_readList list, rfl⟩
  · obtain ⟨⟨values, behind⟩, object, read⟩ := map_eq_ok_iff.mp read
    cases read
    exact ⟨values, Fields.yield_of_readObject object, rfl⟩
  · cases read

end Records

section Members

variable {α : Type} {name : String} {codec : Codec α} {depth : Nat} {value default : α}

/-- A member that has to be there is read from its text. -/
theorem Field.Yields.required (yields : (Field.required name codec).Yields value) :
    codec.Yields value := by
  -- A required member has no value for where it is missing or cut short.
  obtain own | absent | cut := yields
  · exact own
  · cases absent
  · cases cut

/-- A member with a default is read from its text or has its default. -/
theorem Field.Yields.defaulted (yields : (Field.defaulted name codec default).Yields value) :
    codec.Yields value ∨ value = default := by
  -- Where the member is missing or cut short, the default stands in for it.
  obtain own | absent | cut := yields
  · exact .inl own
  · exact .inr (Option.some.inj absent).symm
  · exact .inr (Option.some.inj cut).symm

end Members

end Scoreboard
