import Scoreboard.Text.Blank

/-! Blanks: trimming takes off all that stands around a text, and nothing else. -/

namespace Scoreboard

variable {drops : Char → Bool} {text core before after : List Char}

/-- What is trimmed off the end of a text belongs to the class. -/
theorem exists_behind_dropTrailing (drops : Char → Bool) (text : List Char) :
    ∃ after, text = dropTrailing drops text ++ after ∧ ∀ c ∈ after, drops c = true := by
  refine ⟨(text.reverse.takeWhile drops).reverse, ?_, fun c member => ?_⟩
  · rw [dropTrailing, ← List.reverse_append, List.takeWhile_append_dropWhile, List.reverse_reverse]
  · exact List.all_eq_true.mp List.all_takeWhile c (List.mem_reverse.mp member)

/-- What is trimmed off at either end of a text belongs to the class. -/
theorem exists_around_trimBoth (drops : Char → Bool) (text : List Char) :
    ∃ before after, text = before ++ trimBoth drops text ++ after ∧
      (∀ c ∈ before, drops c = true) ∧ ∀ c ∈ after, drops c = true := by
  obtain ⟨after, whole, dropped⟩ := exists_behind_dropTrailing drops (text.dropWhile drops)
  refine ⟨text.takeWhile drops, after, ?_, List.all_eq_true.mp List.all_takeWhile, dropped⟩
  rw [trimBoth, List.append_assoc, ← whole, List.takeWhile_append_dropWhile]

/-- What is dropped in front of a text is dropped up to its first character. -/
theorem dropWhile_around (first : ∀ c ∈ text.head?, drops c = false)
    (dropped : ∀ c ∈ before, drops c = true) : (before ++ text).dropWhile drops = text := by
  -- The part in front goes whole, and the text stops the dropping at once.
  rw [List.dropWhile_append_of_pos dropped]
  cases text with
  | nil => rfl
  | cons c text => simp [first c rfl]

/-- A text that neither starts nor ends with the class is all that trimming leaves. -/
theorem trimBoth_around (some : core ≠ []) (first : ∀ c ∈ core.head?, drops c = false)
    (last : ∀ c ∈ core.getLast?, drops c = false) (droppedBefore : ∀ c ∈ before, drops c = true)
    (droppedAfter : ∀ c ∈ after, drops c = true) :
    trimBoth drops (before ++ core ++ after) = core := by
  -- The end is trimmed like a front, on the text turned round.
  have front : ∀ c ∈ (core ++ after).head?, drops c = false := by
    cases core with
    | nil => exact absurd rfl some
    | cons c core => exact first
  have back : ∀ c ∈ core.reverse.head?, drops c = false := by
    rw [List.head?_reverse]
    exact last
  have turned : ∀ c ∈ after.reverse, drops c = true :=
    fun c member => droppedAfter c (List.mem_reverse.mp member)
  rw [trimBoth, List.append_assoc, dropWhile_around front droppedBefore, dropTrailing,
    List.reverse_append, dropWhile_around back turned, List.reverse_reverse]

end Scoreboard
