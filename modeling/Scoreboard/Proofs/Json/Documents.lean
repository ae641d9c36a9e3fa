import Scoreboard.Proofs.Json.Records

/-! Whole documents: the texts that codecs of records decode, and how deep these may be nested. -/

namespace Scoreboard

/-- An object of arbitrary members, as a whole text. -/
structure ObjectDocument where
  before : Blanks
  gap : Blanks
  members : List Member
  after : Blanks
  names : ∀ member ∈ members, StringBody member.name
  written : ∀ member ∈ members, ValueText member.content.value

def ObjectDocument.text (document : ObjectDocument) : List Char :=
  document.before.text ++ (objectText document.gap document.members ++ document.after.text)

/-- A member without blanks. -/
def Member.dense (name value : String) : Member :=
  ⟨.none, name.toList, .none, .none, value.toList, .none⟩

/-- A list of arbitrary elements, as a whole text. -/
structure ListDocument where
  before : Blanks
  gap : Blanks
  elements : List Element
  after : Blanks
  written : ∀ element ∈ elements, ValueText element.value

def ListDocument.text (document : ListDocument) : List Char :=
  document.before.text ++ (listText document.gap document.elements ++ document.after.text)

section Documents

variable {β : Type} {αs : List Type} {record : Record αs β} {value : β}

/-- Every text that occurs is that of a value, since the members have values. -/
theorem valueText_of_states {members : List Member} {entries : List (String × List Char)}
    (states : List.Forall₂ Member.States members entries)
    (written : ∀ member ∈ members, ValueText member.content.value) (name : String) :
    ∀ text ∈ occurrences entries name, ValueText text := by
  -- The entries have the texts of the members, and what occurs is among the entries.
  have values : ∀ entry ∈ entries, ValueText entry.2 := by
    induction states with
    | nil => exact List.forall_mem_nil _
    | cons own _ ih =>
      obtain ⟨first, others⟩ := List.forall_mem_cons.mp written
      exact List.forall_mem_cons.mpr ⟨own.text ▸ first, ih others⟩
  intro text occurs
  obtain ⟨entry, listed, rfl⟩ := List.mem_map.mp occurs
  exact values entry (List.mem_of_mem_filter listed)

/-- Every text that occurs is that of a value in the document. -/
theorem ObjectDocument.valueText {document : ObjectDocument} {entries : List (String × List Char)}
    (states : List.Forall₂ Member.States document.members entries) (name : String) :
    ∀ text ∈ occurrences entries name, ValueText text :=
  valueText_of_states states document.written name

/-- An object is decoded to what the texts under the names give. -/
theorem ObjectDocument.decode_iff {document : ObjectDocument} {entries : List (String × List Char)}
    (inner : record.fields.Local) (distinct : record.fields.names.Nodup)
    (states : List.Forall₂ Member.States document.members entries) :
    record.codec.decode document.text = .ok value ↔
      ∃ values, record.fields.Give (nestingLimit - 1) (occurrences entries) values ∧
        record.make values = value := by
  have object := ValueText.object document.gap document.members document.names document.written
  rw [text, (Record.exact inner distinct).decode_iff _ _ object, ← Record.takesMembers_iff states]
  -- The text of the object is taken alone, with nothing left behind it.
  have read := @Record.read_objectText _ _ (nestingLimit - 1) [] [] record inner distinct
    document.gap document.members document.names document.written value
  rw [List.append_nil] at read
  exact read.trans (and_iff_right rfl)

/-- A list is decoded to what its elements give in order. -/
theorem ListDocument.decode_iff {document : ListDocument} (inner : record.fields.Local)
    (distinct : record.fields.names.Nodup) :
    record.codec.decode document.text = .ok value ↔
      ∃ values, record.fields.Fit (nestingLimit - 1) (document.elements.map Element.value) values ∧
        record.make values = value := by
  -- A whole text is decoded from its value, with nothing behind it but blanks.
  have list := ValueText.list document.gap document.elements document.written
  rw [text, (Record.exact inner distinct).decode_iff _ _ list]
  have read := @Record.read_listText _ _ (nestingLimit - 1) document.elements [] [] record inner
    document.gap document.written value
  rw [List.append_nil] at read
  exact read.trans (and_iff_right rfl)

end Documents

section Rooms

variable {α β : Type} {αs : List Type} {codec : Codec α} {field : Field α} {fields : Fields αs}
  {room other : Nat}

/-- A codec takes what it takes, however many levels may still be opened. -/
def Codec.Roomless {α : Type} (codec : Codec α) : Prop :=
  ∀ {text value} (room other : Nat), ValueText text → codec.Takes room text value →
    codec.Takes other text value

/-- The codecs of all members do. -/
def Fields.Roomless {αs : List Type} : Fields αs → Prop
  | .nil => True
  | .cons field fields => field.codec.Roomless ∧ fields.Roomless

/-- A codec with one set of texts for all depths does not depend on the depth. -/
theorem Codec.Exact.roomless {Text : List Char → α → Prop} (exact : codec.Exact fun _ => Text) :
    codec.Roomless :=
  fun _ _ written taken => (exact.takes written).mpr ((exact.takes written).mp taken)

/-- Members that do not depend on the depth enter the same slots at any other. -/
theorem Fields.Enter.inOther (roomless : fields.Roomless) {name : String} {text : List Char}
    (written : ValueText text) {slots later : Slots αs}
    (entered : fields.Enter room slots (name, text) later) :
    fields.Enter other slots (name, text) later := by
  induction fields with
  | nil => trivial
  | cons field fields ih =>
    obtain ⟨slot, slots⟩ := slots
    obtain ⟨own, laters⟩ := later
    obtain ⟨first, others⟩ := roomless
    refine ⟨?_, ih others entered.2⟩
    -- The text matters only to the member of its name.
    have filled := entered.1
    unfold Field.Enters at filled ⊢
    split at filled
    · rename_i same
      obtain ⟨empty, value, taken, same'⟩ := filled
      rw [if_pos same]
      exact ⟨empty, value, first _ _ written taken, same'⟩
    · rename_i same
      rwa [if_neg same]

/-- Members that do not depend on the depth fill the same slots at any other. -/
theorem Fields.leads_inOther (roomless : fields.Roomless) {members : List Member}
    (written : ∀ member ∈ members, ValueText member.content.value) {slots later : Slots αs}
    (leads : Leads (fields.Step room) slots members later) :
    Leads (fields.Step other) slots members later := by
  -- The induction is on the members, each of which enters as before.
  induction leads with
  | nil slots => exact .nil slots
  | cons step _ ih =>
    obtain ⟨own, others⟩ := List.forall_mem_cons.mp written
    obtain ⟨name, spells, entered⟩ := step
    exact .cons ⟨name, spells, entered.inOther roomless own⟩ (ih others)

/-- Elements that do not depend on the depth fit the same values at any other. -/
theorem Fields.Fit.inOther (roomless : fields.Roomless) {texts : List (List Char)}
    (written : ∀ text ∈ texts, ValueText text) {values : Tuple αs}
    (fits : fields.Fit room texts values) : fields.Fit other texts values := by
  induction fields generalizing texts with
  | nil => exact fits
  | cons field fields ih =>
    obtain ⟨value, values⟩ := values
    obtain ⟨first, others⟩ := roomless
    -- A member behind the end of the list has no text that could want room.
    cases texts with
    | nil => exact ⟨fits.1, ih others written fits.2⟩
    | cons text texts =>
      obtain ⟨own, written⟩ := List.forall_mem_cons.mp written
      exact ⟨first _ _ own fits.1, ih others written fits.2⟩

/-- A record whose members need no room needs no more than one level. -/
theorem Record.takes_inOther {record : Record αs β} (inner : record.fields.Local)
    (distinct : record.fields.names.Nodup) (roomless : record.fields.Roomless) {text : List Char}
    (written : ValueText text) {value : β} (taken : record.codec.Takes (room + 1) text value) :
    record.codec.Takes (other + 1) text value := by
  -- An object and a list alike open one level, inside which the members do with any room.
  have whole := Record.exact inner distinct
  obtain ⟨less, same, object | list⟩ := (whole.takes written).mp taken
  · obtain ⟨gap, members, rfl, names, values, slots, tuple, leads, complete⟩ := object
    exact (whole.takes written).mpr ⟨other, rfl, .inl ⟨gap, members, rfl, names, values, slots,
      tuple, Fields.leads_inOther roomless values leads, complete⟩⟩
  · obtain ⟨gap, elements, rfl, values, tuple, fits, same⟩ := list
    have texts : ∀ text ∈ elements.map Element.value, ValueText text :=
      List.forall_mem_map.mpr values
    exact (whole.takes written).mpr ⟨other, rfl, .inr ⟨gap, elements, rfl, values, tuple,
      fits.inOther roomless texts, same⟩⟩

end Rooms

end Scoreboard
