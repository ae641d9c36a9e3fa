import Scoreboard.Proofs.Json.Members
import Scoreboard.Json.Record

/-! Entries: what the members of an object make of a record depends on those under each name alone. -/

namespace Scoreboard

/-- A member is written for a name, which is spelled in it, with the text of a value. -/
structure Member.States (member : Member) (entry : String × List Char) : Prop where
  named : Spells member.name entry.1.toList
  text : entry.2 = member.content.value

/-- The texts of the values that entries have under a name. -/
def occurrences (entries : List (String × List Char)) (name : String) : List (List Char) :=
  (entries.filter fun entry => entry.1 = name).map Prod.snd

section Fields

variable {α : Type} {αs : List Type}

/-- An entry fills the empty slot of a member of its name, and leaves one of another name alone. -/
def Field.Enters (field : Field α) (room : Nat) (slot : Option α) (entry : String × List Char)
    (later : Option α) : Prop :=
  if field.name = entry.1 then
    slot = none ∧ ∃ value, field.codec.Takes room entry.2 value ∧ later = some value
  else later = slot

/-- An entry acts on each slot on its own. -/
def Fields.Enter (room : Nat) {αs : List Type} : Fields αs → Slots αs → String × List Char →
    Slots αs → Prop
  | .nil, (), _, () => True
  | .cons field fields, (slot, slots), entry, (later, laters) =>
    field.Enters room slot entry later ∧ fields.Enter room slots entry laters

/-- The value that the texts under its name give a member, of which there is one or none. -/
def Field.Gives (field : Field α) (room : Nat) : List (List Char) → α → Prop
  | [], value => field.absent = some value
  | [text], value => field.codec.Takes room text value
  | _ :: _ :: _, _ => False

/-- The texts under their names make the values of all members. -/
def Fields.Give (room : Nat) (texts : String → List (List Char)) {αs : List Type} :
    Fields αs → Tuple αs → Prop
  | .nil, () => True
  | .cons field fields, (value, values) =>
    field.Gives room (texts field.name) value ∧ fields.Give room texts values

/-- The texts make the values of the members in order. They may stop where the members can be cut. -/
def Fields.Fit (room : Nat) {αs : List Type} : Fields αs → List (List Char) → Tuple αs → Prop
  | .nil, texts, () => texts = []
  | .cons field fields, [], (value, values) => field.cut = some value ∧ fields.Fit room [] values
  | .cons field fields, text :: texts, (value, values) =>
    field.codec.Takes room text value ∧ fields.Fit room texts values

/-- The codecs of all members are local. -/
def Fields.Local {αs : List Type} : Fields αs → Prop
  | .nil => True
  | .cons field fields => field.codec.Local ∧ fields.Local

end Fields

section Occurrences

variable {entry : String × List Char} {entries : List (String × List Char)} {name : String}

/-- An entry of a name occurs under it, in front of the later ones. -/
theorem occurrences_cons_self (same : name = entry.1) :
    occurrences (entry :: entries) name = entry.2 :: occurrences entries name := by
  simp [occurrences, same]

/-- An entry of another name does not occur under this one. -/
theorem occurrences_cons_other (other : name ≠ entry.1) :
    occurrences (entry :: entries) name = occurrences entries name := by
  simp [occurrences, other.symm]

end Occurrences

section Slots

variable {α : Type} {αs : List Type} {field : Field α} {fields : Fields αs} {room : Nat}
  {entries : List (String × List Char)}

/-- A slot that is filled stays so, and its name must not occur again. -/
theorem Field.leads_filled_iff {value : α} {later : Option α} :
    Leads (field.Enters room) (some value) entries later ↔
      occurrences entries field.name = [] ∧ later = some value := by
  -- The induction is on the entries, and none may have the name.
  induction entries with
  | nil => simp [leads_nil_iff, occurrences]
  | cons entry entries ih =>
    rw [leads_cons_iff]
    by_cases same : field.name = entry.1
    · -- An entry of the name wants the slot empty.
      simp [Enters, same, occurrences_cons_self]
    · rw [occurrences_cons_other same, ← ih]
      simp [Enters, same]

/-- An empty slot is filled by the only entry of its name. -/
theorem Field.leads_empty_iff {later : Option α} :
    Leads (field.Enters room) none entries later ↔
      match occurrences entries field.name with
      | [] => later = none
      | [text] => ∃ value, field.codec.Takes room text value ∧ later = some value
      | _ :: _ :: _ => False := by
  induction entries with
  | nil => exact leads_nil_iff
  | cons entry entries ih =>
    rw [leads_cons_iff]
    by_cases same : field.name = entry.1
    · rw [occurrences_cons_self same]
      have entered : ∀ between, field.Enters room none entry between ↔
          ∃ value, field.codec.Takes room entry.2 value ∧ between = some value := by
        simp [Enters, same]
      simp only [entered]
      -- The entry fills the slot, which then has to stay as it is.
      cases behind : occurrences entries field.name with
      | nil =>
        constructor
        · rintro ⟨_, ⟨value, taken, rfl⟩, others⟩
          exact ⟨value, taken, (leads_filled_iff.mp others).2⟩
        · rintro ⟨value, taken, rfl⟩
          exact ⟨_, ⟨value, taken, rfl⟩, leads_filled_iff.mpr ⟨behind, rfl⟩⟩
      | cons text texts =>
        -- A second entry of the name finds the slot filled.
        refine iff_of_false ?_ id
        rintro ⟨_, ⟨value, taken, rfl⟩, others⟩
        have none := (leads_filled_iff.mp others).1
        rw [behind] at none
        cases none
    · rw [occurrences_cons_other same, ← ih]
      simp [Enters, same]

/-- What the entries fill a slot with is what the texts under its name make of the member. -/
theorem Field.gives_iff {value : α} :
    (∃ slot, Leads (field.Enters room) none entries slot ∧ slot.or field.absent = some value) ↔
      field.Gives room (occurrences entries field.name) value := by
  simp only [leads_empty_iff]
  -- Without an entry of its name the slot stays empty, and the member has its default.
  cases occurrences entries field.name with
  | nil => simp [Gives]
  | cons text texts =>
    cases texts with
    | nil =>
      constructor
      · rintro ⟨_, ⟨found, taken, rfl⟩, same⟩
        cases same
        exact taken
      · intro taken
        exact ⟨_, ⟨value, taken, rfl⟩, rfl⟩
    | cons second texts => simp [Gives]

/-- The values are complete when the first one is there, from its slot or by default, and so are the others. -/
theorem Fields.complete_cons_iff {slot : Option α} {slots : Slots αs} {value : α}
    {values : Tuple αs} : (Fields.cons field fields).complete (slot, slots) = .ok (value, values) ↔
      slot.or field.absent = some value ∧ fields.complete slots = .ok values := by
  -- Without a first value the reading fails before it gets to the others.
  rw [complete]
  cases slot.or field.absent with
  | none => simp
  | some found =>
    constructor
    · intro completed
      obtain ⟨others, rest, same⟩ := bind_eq_ok_iff.mp completed
      cases same
      exact ⟨rfl, rest⟩
    · rintro ⟨same, rest⟩
      cases same
      exact bind_eq_ok_iff.mpr ⟨values, rest, rfl⟩

/-- The values of all members are made of the texts under their names. -/
theorem Fields.give_iff {values : Tuple αs} :
    (∃ slots, Leads (fields.Enter room) fields.empty entries slots ∧
        fields.complete slots = .ok values) ↔
      fields.Give room (occurrences entries) values := by
  induction fields with
  | nil =>
    refine iff_of_true ⟨(), ?_, rfl⟩ trivial
    induction entries with
    | nil => exact .nil _
    | cons entry entries ih => exact .cons trivial ih
  | cons field fields ih =>
    obtain ⟨value, values⟩ := values
    -- Every entry acts on the first slot and on the others apart from each other.
    have product : ∀ slot slots, Leads ((Fields.cons field fields).Enter room)
        (Fields.cons field fields).empty entries (slot, slots) ↔
        Leads (field.Enters room) none entries slot ∧
          Leads (fields.Enter room) fields.empty entries slots :=
      fun slot slots => leads_prod_iff
    rw [Give, ← Field.gives_iff, ← ih]
    constructor
    · rintro ⟨⟨slot, slots⟩, leads, completed⟩
      obtain ⟨own, others⟩ := (product _ _).mp leads
      obtain ⟨filled, rest⟩ := complete_cons_iff.mp completed
      exact ⟨⟨slot, own, filled⟩, slots, others, rest⟩
    · rintro ⟨⟨slot, own, filled⟩, slots, others, rest⟩
      exact ⟨(slot, slots), (product _ _).mpr ⟨own, others⟩, complete_cons_iff.mpr ⟨filled, rest⟩⟩

end Slots

end Scoreboard
