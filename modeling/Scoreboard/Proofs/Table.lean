import Mathlib.Data.List.Induction
import Scoreboard.Table

/-! What tables answer after they were changed. -/

namespace Scoreboard

/-- Where the keys are distinct, a member of a list is found by its key. -/
theorem find?_of_nodup_map {α κ : Type} [DecidableEq κ] {key : α → κ} {members : List α}
    {member : α} (distinct : (members.map key).Nodup) (there : member ∈ members) :
    (members.find? fun other => key other = key member) = some member := by
  -- The induction walks to the member, in front of which no other one has its key.
  induction members with
  | nil => cases there
  | cons first rest ih =>
    obtain ⟨fresh, distinct⟩ := List.nodup_cons.mp distinct
    rcases List.mem_cons.mp there with rfl | later
    · exact List.find?_cons_of_pos (decide_eq_true rfl)
    · have other : key first ≠ key member := fun same =>
        fresh (same ▸ List.mem_map_of_mem later)
      rw [List.find?_cons_of_neg (by simpa using other)]
      exact ih distinct later

namespace Table

section Lookup

variable {κ ν : Type} [DecidableEq κ]

/-- The entries after an insertion answer the new key with the new value and others as before. -/
theorem find?_insertEntry (key asked : κ) (value : ν) (entries : List (κ × ν)) :
    ((insertEntry key value entries).find? fun entry => entry.1 = asked).map Prod.snd =
      if key = asked then some value
      else (entries.find? fun entry => entry.1 = asked).map Prod.snd := by
  -- The induction walks to the place of the key, and the search walks along.
  induction entries with
  | nil => by_cases same : key = asked <;> simp [insertEntry, same]
  | cons entry rest ih =>
    unfold insertEntry
    split
    · -- The new entry takes the place of one with the same key.
      rename_i replaced
      by_cases same : key = asked
      · simp [same]
      · simp [same, replaced]
    · -- The first entry stays, and answers the search or is passed over in both lists.
      rename_i kept
      by_cases first : entry.1 = asked
      · have other : key ≠ asked := fun same => kept (first.trans same.symm)
        simp [first, other]
      · rw [List.find?_cons_of_neg (by simpa using first),
          List.find?_cons_of_neg (by simpa using first)]
        exact ih

/-- An insertion is seen under its own key only. -/
theorem get?_insert (table : Table κ ν) (key asked : κ) (value : ν) :
    (table.insert key value).get? asked = if key = asked then some value else table.get? asked :=
  find?_insertEntry key asked value table.entries

/-- An insertion adds no entry but the one inserted. -/
theorem mem_insert {table : Table κ ν} {key : κ} {value : ν} {entry : κ × ν}
    (member : entry ∈ (table.insert key value).entries) :
    entry = (key, value) ∨ entry ∈ table.entries := by
  -- The induction walks to the place of the key, in front of which nothing changes.
  have general : ∀ entries : List (κ × ν), entry ∈ insertEntry key value entries →
      entry = (key, value) ∨ entry ∈ entries := by
    intro entries
    induction entries with
    | nil => simp [insertEntry]
    | cons first rest ih =>
      intro inserted
      unfold insertEntry at inserted
      split at inserted
      · rcases List.mem_cons.mp inserted with same | later
        · exact .inl same
        · exact .inr (List.mem_cons_of_mem _ later)
      · rcases List.mem_cons.mp inserted with same | later
        · exact .inr (by simp [same])
        · rcases ih later with same | later
          · exact .inl same
          · exact .inr (List.mem_cons_of_mem _ later)
  exact general table.entries member

/-- Whoever is looked up has an entry. -/
theorem mem_of_get? {table : Table κ ν} {key : κ} {value : ν} (found : table.get? key = some value) :
    (key, value) ∈ table.entries := by
  -- The entry that is found is under the key that was looked for.
  obtain ⟨⟨other, held⟩, search, rfl⟩ := Option.map_eq_some_iff.mp found
  have same : other = key := by simpa using List.find?_some search
  exact same ▸ List.mem_of_find?_eq_some search

/-- With distinct keys, the entries are what the keys answer. -/
theorem mem_entries_iff {table : Table κ ν} (distinct : table.keys.Nodup) {key : κ} {value : ν} :
    (key, value) ∈ table.entries ↔ table.get? key = some value := by
  refine ⟨fun member => ?_, mem_of_get?⟩
  rw [get?, find?_of_nodup_map distinct member, Option.map_some]

/-- A key that is there keeps its place, and a new one goes to the end. -/
theorem keys_insert (table : Table κ ν) (key : κ) (value : ν) : (table.insert key value).keys =
    if key ∈ table.keys then table.keys else table.keys ++ [key] := by
  have general : ∀ entries : List (κ × ν), (insertEntry key value entries).map Prod.fst =
      if key ∈ entries.map Prod.fst then entries.map Prod.fst
      else entries.map Prod.fst ++ [key] := by
    intro entries
    induction entries with
    | nil => simp [insertEntry]
    | cons first rest ih =>
      -- Either the first entry is replaced, or it stays and the search goes on behind it.
      by_cases same : first.1 = key
      · simp [insertEntry, same]
      · have other : ¬ key = first.1 := fun same' => same same'.symm
        simp only [insertEntry, if_neg same, List.map_cons, ih, List.mem_cons, other, false_or]
        split <;> rfl
  exact general table.entries

/-- What is put under a new key goes to the end. -/
theorem entries_insert_of_fresh {table : Table κ ν} {key : κ} (fresh : key ∉ table.keys) (value : ν) :
    (table.insert key value).entries = table.entries ++ [(key, value)] := by
  -- The search for the key runs through all entries, each of which has another one.
  have general : ∀ entries : List (κ × ν), key ∉ entries.map Prod.fst →
      insertEntry key value entries = entries ++ [(key, value)] := by
    intro entries fresh
    induction entries with
    | nil => rfl
    | cons first rest ih =>
      obtain ⟨other, fresh⟩ := not_or.mp (mt List.mem_cons.mpr fresh)
      rw [insertEntry, if_neg (Ne.symm other), ih fresh]
      rfl
  exact general table.entries fresh

/-- A table keeps distinct keys when a value is put in. -/
theorem nodup_keys_insert {table : Table κ ν} (distinct : table.keys.Nodup) (key : κ) (value : ν) :
    (table.insert key value).keys.Nodup := by
  -- A key that is there stays where it is. A new one goes behind keys that all differ from it.
  rw [keys_insert]
  split
  · exact distinct
  · rename_i fresh
    refine List.nodup_append.mpr ⟨distinct, List.pairwise_singleton _ key, ?_⟩
    intro one member other last same
    rw [same, List.mem_singleton.mp last] at member
    exact fresh member

/-- A key that is erased has no value any more, and all others keep theirs. -/
theorem get?_erase (table : Table κ ν) (key asked : κ) :
    (table.erase key).get? asked = if asked = key then none else table.get? asked := by
  have general : ∀ entries : List (κ × ν),
      (entries.filter fun entry => entry.1 ≠ key).find? (fun entry => entry.1 = asked) =
        if asked = key then none else entries.find? fun entry => entry.1 = asked := by
    intro entries
    induction entries with
    | nil => simp
    | cons first rest ih =>
      -- An entry that stays answers the search or not, and one that goes answers no other key.
      by_cases gone : first.1 = key
      · rw [List.filter_cons_of_neg (by simpa using gone), ih]
        split
        · rfl
        · rename_i other
          rw [List.find?_cons_of_neg (by simpa [gone] using fun same => other same.symm)]
      · rw [List.filter_cons_of_pos (by simpa using gone)]
        by_cases found : first.1 = asked
        · have other : ¬ asked = key := found ▸ gone
          simp [found, other]
        · rw [List.find?_cons_of_neg (by simpa using found),
            List.find?_cons_of_neg (by simpa using found)]
          exact ih
  unfold get? erase
  rw [general]
  split <;> rfl

/-- A table keeps distinct keys when one of them is taken out. -/
theorem nodup_keys_erase {table : Table κ ν} (distinct : table.keys.Nodup) (key : κ) :
    (table.erase key).keys.Nodup :=
  distinct.sublist (List.filter_sublist.map Prod.fst)

end Lookup

section Building

variable {κ ν : Type} [DecidableEq κ] {entries : List (κ × ν)}

/-- The table that entries make when they are inserted one after the other. -/
def ofEntries (entries : List (κ × ν)) : Table κ ν :=
  entries.foldl (fun table entry => table.insert entry.1 entry.2) empty

/-- The last entry is put in behind all others. -/
theorem ofEntries_concat (entries : List (κ × ν)) (entry : κ × ν) :
    ofEntries (entries ++ [entry]) = (ofEntries entries).insert entry.1 entry.2 :=
  List.foldl_append

/-- Every key stands where it first came. -/
theorem keys_ofEntries (entries : List (κ × ν)) :
    (ofEntries entries).keys = (entries.map Prod.fst).eraseDups := by
  -- The induction is on the insertions, the last of which comes last.
  induction entries using List.reverseRecOn with
  | nil => rfl
  | append_singleton entries entry ih =>
    rw [ofEntries_concat, keys_insert, ih, List.map_append, List.eraseDups_append]
    by_cases listed : entry.1 ∈ entries.map Prod.fst
    · have gone : [entry.1].removeAll (entries.map Prod.fst) = [] := by
        simpa [List.removeAll] using listed
      rw [if_pos (List.mem_eraseDups.mpr listed), List.map_singleton, gone]
      exact (List.append_nil _).symm
    · have kept : [entry.1].removeAll (entries.map Prod.fst) = [entry.1] := by
        simpa [List.removeAll] using listed
      rw [if_neg (mt List.mem_eraseDups.mp listed), List.map_singleton, kept]
      rfl

/-- Every key has the value that came last. -/
theorem get?_ofEntries (entries : List (κ × ν)) (key : κ) :
    (ofEntries entries).get? key =
      ((entries.filter fun entry => entry.1 = key).getLast?).map Prod.snd := by
  -- The induction is on the entries from behind: the last one overwrites what was there before.
  induction entries using List.reverseRecOn with
  | nil => rfl
  | append_singleton entries entry ih =>
    rw [ofEntries_concat, get?_insert, ih, List.filter_append, List.getLast?_append]
    by_cases same : entry.1 = key <;> simp [same]

/-- Entries under distinct keys stay as they are. -/
theorem entries_ofEntries (distinct : (entries.map Prod.fst).Nodup) :
    (ofEntries entries).entries = entries := by
  -- From behind again: the key of the last entry is not among those in front of it.
  induction entries using List.reverseRecOn with
  | nil => rfl
  | append_singleton entries entry ih =>
    rw [List.map_append, List.map_singleton] at distinct
    obtain ⟨before, _, apart⟩ := List.nodup_append.mp distinct
    have same := ih before
    have fresh : entry.1 ∉ (ofEntries entries).keys := by
      rw [keys, same]
      exact fun listed => apart _ listed _ (List.mem_singleton_self _) rfl
    rw [ofEntries_concat, entries_insert_of_fresh fresh, same]

end Building

/-- A change of the values leaves the keys alone. -/
@[simp] theorem keys_mapEntries {κ ν μ : Type} (table : Table κ ν) (change : κ → ν → μ) :
    (table.mapEntries change).keys = table.keys := by
  simp [keys, mapEntries]

/-- A change in the light of the keys is seen under each key. -/
theorem get?_mapEntries {κ ν μ : Type} [DecidableEq κ] (table : Table κ ν) (change : κ → ν → μ)
    (key : κ) : (table.mapEntries change).get? key = (table.get? key).map (change key) := by
  have general : ∀ entries : List (κ × ν),
      ((entries.map fun entry => (entry.1, change entry.1 entry.2)).find? fun entry =>
        entry.1 = key).map Prod.snd =
      ((entries.find? fun entry => entry.1 = key).map Prod.snd).map (change key) := by
    intro entries
    induction entries with
    | nil => rfl
    | cons first rest ih =>
      -- The first entry answers the search in both lists, or in neither.
      by_cases same : first.1 = key
      · simp [same]
      · rw [List.map_cons, List.find?_cons_of_neg (by simpa using same),
          List.find?_cons_of_neg (by simpa using same), ih]
  exact general table.entries

/-- Entries changed in the light of their keys come from entries under the same keys. -/
theorem mem_mapEntries {κ ν μ : Type} {table : Table κ ν} {change : κ → ν → μ} {entry : κ × μ}
    (member : entry ∈ (table.mapEntries change).entries) :
    ∃ value, (entry.1, value) ∈ table.entries ∧ entry.2 = change entry.1 value := by
  -- The change looks at one entry at a time and leaves its key alone.
  obtain ⟨⟨key, value⟩, held, rfl⟩ := List.mem_map.mp member
  exact ⟨value, held, rfl⟩

end Table

end Scoreboard
