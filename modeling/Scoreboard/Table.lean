/-! Tables: values under distinct keys, in the order in which the keys came. -/

namespace Scoreboard

/-- Values under keys, each key in the place where it first came. -/
structure Table (κ ν : Type) where
  entries : List (κ × ν)
deriving DecidableEq, Repr

namespace Table

variable {κ ν : Type}

/-- The table without entries. -/
def empty : Table κ ν :=
  ⟨[]⟩

instance : EmptyCollection (Table κ ν) := ⟨empty⟩

instance : Inhabited (Table κ ν) := ⟨empty⟩

/-- The number of entries. -/
def size (table : Table κ ν) : Nat :=
  table.entries.length

/-- The keys in order. -/
def keys (table : Table κ ν) : List κ :=
  table.entries.map Prod.fst

variable [DecidableEq κ]

/-- The value under a key. -/
def get? (table : Table κ ν) (key : κ) : Option ν :=
  (table.entries.find? fun entry => entry.1 = key).map Prod.snd

/-- Whether a key has a value. -/
def contains (table : Table κ ν) (key : κ) : Bool :=
  (table.get? key).isSome

/-- Entries with one more value: in the place of its key, or at the end. -/
def insertEntry (key : κ) (value : ν) : List (κ × ν) → List (κ × ν)
  | [] => [(key, value)]
  | entry :: rest =>
    if entry.1 = key then (key, value) :: rest else entry :: insertEntry key value rest

/-- A table with a value put under a key. -/
def insert (table : Table κ ν) (key : κ) (value : ν) : Table κ ν :=
  ⟨insertEntry key value table.entries⟩

/-- A table without a key. -/
def erase (table : Table κ ν) (key : κ) : Table κ ν :=
  ⟨table.entries.filter fun entry => entry.1 ≠ key⟩

end Table

/-- A table with every value changed in the light of its key. -/
def Table.mapEntries {κ ν μ : Type} (table : Table κ ν) (change : κ → ν → μ) : Table κ μ :=
  ⟨table.entries.map fun entry => (entry.1, change entry.1 entry.2)⟩

end Scoreboard
