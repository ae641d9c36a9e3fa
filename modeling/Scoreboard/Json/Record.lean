import Scoreboard.Json.Codec

/-! Records: objects with fixed members, which may also be written as the list of their values. -/

namespace Scoreboard

/-- One member of a record. -/
structure Field (α : Type) where
  name : String
  codec : Codec α
  /-- The value taken when an object leaves the member out. -/
  absent : Option α
  /-- The value taken when a list stops before the member. -/
  cut : Option α
  /-- Whether the member is left out when this value is written. -/
  hidden : α → Bool

/-- A member that has to be there. -/
def Field.required {α : Type} (name : String) (codec : Codec α) : Field α :=
  ⟨name, codec, none, none, fun _ => false⟩

/-- A member with a default. -/
def Field.defaulted {α : Type} (name : String) (codec : Codec α) (default : α) : Field α :=
  ⟨name, codec, some default, some default, fun _ => false⟩

/-- A member that an object may leave out and a list may not. -/
def Field.omissible {α : Type} (name : String) (codec : Codec α) : Field (Option α) :=
  ⟨name, codec.optional, some none, none, fun _ => false⟩

/-- The members of a record in order. -/
inductive Fields : List Type → Type 1
  | nil : Fields []
  | cons {α : Type} {αs : List Type} (field : Field α) (fields : Fields αs) : Fields (α :: αs)

/-- One value for each member. -/
def Tuple : List Type → Type
  | [] => Unit
  | α :: αs => α × Tuple αs

/-- A place for one value of each member, filled or not. -/
def Slots : List Type → Type
  | [] => Unit
  | α :: αs => Option α × Slots αs

/-- Slots with nothing in them. -/
def Fields.empty {αs : List Type} : Fields αs → Slots αs
  | .nil => ()
  | .cons _ fields => (none, fields.empty)

/-- One member of an object, the text standing behind its name. -/
def Fields.readMember {αs : List Type} (room : Nat) (name : String) :
    Fields αs → Slots αs → List Char → Except DecodeError ((Slots αs) × List Char)
  | .nil, (), text => do .ok ((), ← skipValue (← readColon text))
  | .cons field fields, (slot, slots), text =>
    if field.name = name then
      -- A name met again is refused before its value is looked at.
      match slot with
      | some _ => .error (.duplicateField name)
      | none => do
        let (value, text) ← field.codec.read room (← readColon text)
        .ok ((some value, slots), text)
    else do
      let (slots, text) ← fields.readMember room name slots text
      .ok ((slot, slots), text)

/-- The values of all members, once the object has closed. -/
def Fields.complete {αs : List Type} : Fields αs → Slots αs → Except DecodeError (Tuple αs)
  | .nil, () => .ok ()
  | .cons field fields, (slot, slots) => do
    match slot.or field.absent with
    | none => .error (.missingField field.name)
    | some value => .ok (value, ← fields.complete slots)

/-- The values of all members from an object, the text standing behind its opening brace. -/
def Fields.readObject {αs : List Type} (fields : Fields αs) (room : Nat) (text : List Char) :
    Except DecodeError ((Tuple αs) × List Char) := do
  let member (slots : Slots αs) (text : List Char) :
      Except DecodeError ((Slots αs) × List Char) := do
    let (name, text) ← readString text
    fields.readMember room name slots text
  let (slots, text) ← Scoreboard.readObject member fields.empty text
  .ok (← fields.complete slots, text)

/-- The values of all members from a list, the text standing behind its opening bracket. -/
def Fields.readList {αs : List Type} (room : Nat) :
    Fields αs → Nat → List Char → Except DecodeError ((Tuple αs) × List Char)
  | .nil, _, text => .ok ((), text)
  | .cons field fields, index, text => do
    match ← nextElement (index == 0) text with
    | some text =>
      let (value, text) ← field.codec.read room text
      let (values, text) ← fields.readList room (index + 1) text
      .ok ((value, values), text)
    | none =>
      match field.cut with
      | none => .error (.shortList index)
      | some value =>
        let (values, text) ← fields.readList room (index + 1) text
        .ok ((value, values), text)

/-- The written members of a record, without the hidden ones. -/
def Fields.writeMembers {αs : List Type} : Fields αs → Tuple αs → List (List Char)
  | .nil, () => []
  | .cons field fields, (value, values) =>
    let written := fields.writeMembers values
    if field.hidden value then written
    else writeMember field.name (field.codec.write value) :: written

/-- A record type: its members, and how a value is put together from theirs and taken apart. -/
structure Record (αs : List Type) (β : Type) where
  fields : Fields αs
  make : Tuple αs → β
  parts : β → Tuple αs

/-- The codec of a record. -/
def Record.codec {αs : List Type} {β : Type} (record : Record αs β) : Codec β where
  read room text :=
    match dropBlanks text, room with
    | [], _ => .error .truncated
    | '[' :: _, 0 | '{' :: _, 0 => .error .malformed
    | '[' :: rest, room + 1 => do
      let (values, rest) ← record.fields.readList room 0 rest
      .ok (record.make values, ← closeList rest)
    | '{' :: rest, room + 1 =>
      (record.fields.readObject room rest).map fun (values, rest) => (record.make values, rest)
    | text, _ => .error (kindProblem text)
  write value := writeObject (record.fields.writeMembers (record.parts value))

end Scoreboard
