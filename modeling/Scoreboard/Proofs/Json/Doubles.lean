import Scoreboard.Proofs.Decimal.Finite
import Scoreboard.Proofs.Json.Yields

/-! Doubles in documents: the ones that are read are finite, and their texts stand among others. -/

namespace Scoreboard

section Layout

/-- A character of a decimal. -/
def Figure (c : Char) : Prop :=
  c.isDigit = true ∨ c = '.' ∨ c = 'e' ∨ c = '+' ∨ c = '-'

/-- No character of a double is a blank. -/
theorem isJsonBlank_of_figure {c : Char} (figure : Figure c) : isJsonBlank c = false := by
  rcases figure with digit | rfl | rfl | rfl | rfl
  · exact isJsonBlank_of_opens (.inr digit)
  all_goals decide

/-- A text of figures that a digit opens. -/
def Figures (text : List Char) : Prop :=
  (∃ c rest, text = c :: rest ∧ c.isDigit = true) ∧ ∀ c ∈ text, Figure c

/-- Figures may go on behind figures. -/
theorem Figures.append {text rest : List Char} (figures : Figures text)
    (others : ∀ c ∈ rest, Figure c) : Figures (text ++ rest) := by
  obtain ⟨⟨first, behind, rfl, digit⟩, all⟩ := figures
  exact ⟨⟨first, _, rfl, digit⟩, List.forall_mem_append.mpr ⟨all, others⟩⟩

/-- The digits of a number are figures. -/
theorem figures_natDigits (value : Nat) : Figures (natDigits value) := by
  -- A number has a first digit.
  have all : ∀ c ∈ natDigits value, c.isDigit = true :=
    fun c member => isDigit_of_mem_natDigits member
  refine ⟨?_, fun c member => .inl (all c member)⟩
  cases digits : natDigits value with
  | nil => exact absurd digits (natDigits_ne_nil value)
  | cons first rest =>
    rw [digits] at all
    exact ⟨first, rest, rfl, all first List.mem_cons_self⟩

/-- Zero alone is a figure. -/
theorem figures_zero : Figures ['0'] :=
  ⟨⟨'0', [], rfl, rfl⟩, List.forall_mem_singleton.mpr (.inl rfl)⟩

/-- As many figures as one takes from the front are figures with a digit in front. -/
theorem Figures.take {text : List Char} (figures : Figures text) {count : Nat}
    (positive : 0 < count) : Figures (text.take count) := by
  obtain ⟨⟨first, behind, rfl, digit⟩, all⟩ := figures
  obtain ⟨count, rfl⟩ := Nat.exists_eq_succ_of_ne_zero (Nat.ne_of_gt positive)
  exact ⟨⟨first, _, rfl, digit⟩, fun c member => all c (List.mem_of_mem_take member)⟩

/-- A decimal is laid out in figures. -/
theorem figures_layout (value : Decimal) : Figures value.layout := by
  have digits := figures_natDigits value.digits
  have point : Figure '.' := .inr (.inl rfl)
  have mark : Figure 'e' := .inr (.inr (.inl rfl))
  have zero : Figure '0' := .inl rfl
  have zeros : ∀ count, ∀ c ∈ List.replicate count '0', Figure c :=
    fun count c member => List.eq_of_mem_replicate member ▸ zero
  unfold Decimal.layout
  simp only
  -- The layouts are those of a whole number, a fraction, a small fraction and a power of ten.
  split
  · refine (digits.append (zeros _)).append ?_
    exact List.forall_mem_cons.mpr ⟨point, List.forall_mem_singleton.mpr zero⟩
  · split
    · rename_i inside
      refine (digits.take (by omega)).append ?_
      exact List.forall_mem_cons.mpr
        ⟨point, fun c member => digits.2 c (List.mem_of_mem_drop member)⟩
    · split
      · refine (figures_zero.append ?_).append digits.2
        exact List.forall_mem_cons.mpr ⟨point, zeros _⟩
      · refine Figures.append ?_ (List.forall_mem_cons.mpr ⟨mark, List.forall_mem_cons.mpr ⟨?_,
          (figures_natDigits _).2⟩⟩)
        · -- A point is put behind the first digit when there are others.
          split
          · rename_i first second rest row
            rw [row] at digits
            obtain ⟨⟨_, _, same, digit⟩, all⟩ := digits
            cases same
            obtain ⟨figure, others⟩ := List.forall_mem_cons.mp all
            exact ⟨⟨_, _, rfl, digit⟩, List.forall_mem_cons.mpr
              ⟨figure, List.forall_mem_cons.mpr ⟨point, others⟩⟩⟩
          · exact digits
        · split
          · exact .inr (.inr (.inr (.inl rfl)))
          · exact .inr (.inr (.inr (.inr rfl)))

/-- A finite double is written in figures, behind a minus sign or behind none. -/
theorem figures_floatText {x : Float} (finite : x.isFinite = true) :
    ∃ body, Figures body ∧ (floatText x = body ∨ floatText x = '-' :: body) := by
  have body : Figures (if (Dyadic.ofFloat x).mantissa = 0 then ['0', '.', '0']
      else (Dyadic.ofFloat x).shortest.layout) := by
    split
    · exact figures_zero.append (List.forall_mem_cons.mpr ⟨.inr (.inl rfl), figures_zero.2⟩)
    · exact figures_layout _
  refine ⟨_, body, ?_⟩
  -- Only the sign bit decides about the minus sign, also in front of zero.
  unfold floatText
  simp only [finite, Bool.not_true, Bool.false_eq_true, if_false]
  split
  · exact .inl rfl
  · exact .inr rfl

/-- The text of a finite double opens with a minus sign or a digit, and has no blanks in it. -/
theorem floatText_eq_cons {x : Float} (finite : x.isFinite = true) : ∃ c text,
    floatText x = c :: text ∧ (c = '-' ∨ c.isDigit = true) ∧
      ∀ d ∈ c :: text, isJsonBlank d = false := by
  -- The figures stand alone, or behind a minus sign.
  obtain ⟨body, ⟨⟨first, rest, rfl, digit⟩, all⟩, written⟩ := figures_floatText finite
  have dark : ∀ d ∈ first :: rest, isJsonBlank d = false :=
    fun d member => isJsonBlank_of_figure (all d member)
  rcases written with plain | minus
  · exact ⟨first, rest, plain, .inr digit, dark⟩
  · exact ⟨'-', first :: rest, minus, .inl rfl, List.forall_mem_cons.mpr ⟨by decide, dark⟩⟩

end Layout

section Doubles

variable {x : Float}

/-- Every double that is read is finite. -/
theorem Codec.isFinite_of_float (yields : Codec.float.Yields x) : x.isFinite = true := by
  obtain ⟨_, text, _, read⟩ := yields
  obtain ⟨⟨number, behind⟩, read, same⟩ := map_eq_ok_iff.mp read
  cases same
  -- What is read is a literal, blanks in front of it apart.
  unfold readNumber at read
  split at read
  · cases read
  · split at read
    · exact isFinite_toFloat read
    · cases read

/-- A finite double whose text alone is decoded to it also comes back inside documents. -/
theorem Codec.float_returns (finite : x.isFinite = true)
    (back : Codec.float.ofText (Codec.float.toText x) = .ok x) : Codec.float.Returns 0 x := by
  obtain ⟨c, text, written, opens, dark⟩ := floatText_eq_cons finite
  -- Read alone, the text is a literal with nothing behind it: its end has no blanks to drop.
  have alone : ∃ number, readNumeral (c :: text) = .ok (number, []) ∧ number.toFloat = x := by
    rw [Codec.ofText, Codec.toText, String.toList_ofList] at back
    obtain ⟨⟨value, behind⟩, read, ended⟩ := bind_eq_ok_iff.mp back
    obtain ⟨⟨number, rest⟩, literal, same⟩ := map_eq_ok_iff.mp read
    obtain ⟨rfl, rfl⟩ : number.toFloat = value ∧ rest = behind := by simpa using same
    replace literal : readNumber (floatText x) = .ok (number, rest) := literal
    rw [written, readNumber_cons opens] at literal
    obtain ⟨_, ends, _⟩ := parts_of_readNumeral literal
    cases rest with
    | nil =>
      cases ended
      exact ⟨number, literal, rfl⟩
    | cons d rest =>
      have stays : dropBlanks (d :: rest) = d :: rest :=
        dropBlanks_cons (dark d (ends.subset List.mem_cons_self))
      simp only [stays] at ended
      cases ended
  obtain ⟨number, alone, value⟩ := alone
  refine ⟨⟨c, text, written, opens_of_number opens⟩, fun room rest _ follows => ?_⟩
  have read := readNumeral_append follows alone
  show (readNumber (floatText x ++ rest)).map _ = _
  rw [written, List.cons_append, readNumber_cons opens, ← List.cons_append, read]
  exact congrArg (fun value => Except.ok (value, rest)) value

end Doubles

end Scoreboard
