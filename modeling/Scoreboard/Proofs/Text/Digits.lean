import Mathlib.Tactic.Ring
import Scoreboard.Text.Digits

/-! Digits: what a number is written with spells that number, behind zeros in front or none. -/

namespace Scoreboard

section Plain

/-- The digits of a number spell that number. -/
theorem digitsValue_natDigits (value : Nat) : digitsValue (natDigits value) = value :=
  Nat.ofDigitChars_toDigits (by decide) (by decide)

/-- Every number has a digit. -/
theorem natDigits_ne_nil (value : Nat) : natDigits value ≠ [] :=
  Nat.toDigits_ne_nil

/-- A number is written with digits only. -/
theorem isDigit_of_mem_natDigits {value : Nat} {c : Char} (member : c ∈ natDigits value) :
    c.isDigit = true :=
  Nat.isDigit_of_mem_toDigits (by decide) (by decide) member

/-- Only zero is written with a zero in front. -/
theorem head?_natDigits {value : Nat} (positive : 0 < value) :
    (natDigits value).head? ≠ some '0' := by
  -- The first digit is the one of the number without its last digit, as long as there is one.
  induction value using Nat.strongRecOn with
  | ind value ih =>
    rcases Nat.lt_or_ge value 10 with small | large
    · have single : ∀ digit < 10, 0 < digit → digit.digitChar ≠ '0' := by decide
      rw [natDigits, Nat.toDigits_of_lt_base small, List.head?_cons]
      exact fun zero => single value small positive (Option.some.inj zero)
    · have shorter := ih (value / 10) (by omega) (by omega)
      rw [natDigits, Nat.toDigits_of_base_le (by decide) large, List.head?_append]
      cases first : (Nat.toDigits 10 (value / 10)).head? with
      | none => exact absurd (List.head?_eq_none_iff.mp first) Nat.toDigits_ne_nil
      | some c => exact fun zero => shorter (first.trans zero)

end Plain

section Rows

variable {width value : Nat} {digits others : List Char}

/-- The first digit of a row counts once for each number that the others can spell. -/
theorem digitsValue_cons (c : Char) (digits : List Char) :
    digitsValue (c :: digits) = digitValue c * 10 ^ digits.length + digitsValue digits := by
  -- What was read before a row moves one place up with each digit of it.
  have general : ∀ (digits : List Char) (before : Nat),
      digits.foldl (fun value digit => 10 * value + digitValue digit) before =
        before * 10 ^ digits.length + digitsValue digits := by
    intro digits
    induction digits with
    | nil => simp [digitsValue]
    | cons next rest ih =>
      intro before
      rw [digitsValue, List.foldl_cons, List.foldl_cons, ih, ih, List.length_cons]
      ring
  have first := general digits (digitValue c)
  simpa [digitsValue] using first

/-- A digit is worth less than ten. -/
theorem digitValue_lt {c : Char} (digit : c.isDigit = true) : digitValue c < 10 := by
  -- The digits have the codes from that of zero to that of nine.
  have bounds := Char.isDigit_iff_toNat.mp digit
  simp only [digitValue]
  have zero : '0'.toNat = 48 := rfl
  have nine : '9'.toNat = 57 := rfl
  omega

/-- Digits of the same value are the same. -/
theorem eq_of_digitValue {c d : Char} (first : c.isDigit = true) (second : d.isDigit = true)
    (same : digitValue c = digitValue d) : c = d := by
  -- Above the code of zero the subtraction loses nothing.
  have low := (Char.isDigit_iff_toNat.mp first).1
  have lowOther := (Char.isDigit_iff_toNat.mp second).1
  simp only [digitValue] at same
  exact Char.toNat_inj.mp (by omega)

/-- A row of digits spells less than the next power of ten. -/
theorem digitsValue_lt (row : ∀ c ∈ digits, c.isDigit = true) :
    digitsValue digits < 10 ^ digits.length := by
  -- The first digit is worth at most nine of the power that all digits behind it stay below.
  induction digits with
  | nil => exact Nat.one_pos
  | cons c digits ih =>
    obtain ⟨digit, row⟩ := List.forall_mem_cons.mp row
    have first : digitValue c + 1 ≤ 10 := digitValue_lt digit
    have rest := ih row
    rw [digitsValue_cons, List.length_cons]
    calc digitValue c * 10 ^ digits.length + digitsValue digits
        < digitValue c * 10 ^ digits.length + 10 ^ digits.length := by omega
      _ = (digitValue c + 1) * 10 ^ digits.length := by ring
      _ ≤ 10 * 10 ^ digits.length := Nat.mul_le_mul_right _ first
      _ = 10 ^ (digits.length + 1) := by ring

/-- Rows of equally many digits that spell the same number are the same. -/
theorem eq_of_digitsValue (row : ∀ c ∈ digits, c.isDigit = true)
    (otherRow : ∀ c ∈ others, c.isDigit = true) (long : digits.length = others.length)
    (same : digitsValue digits = digitsValue others) : digits = others := by
  induction digits generalizing others with
  | nil => exact (List.length_eq_zero_iff.mp long.symm).symm
  | cons c digits ih =>
    cases others with
    | nil => cases long
    | cons d others =>
      obtain ⟨digit, row⟩ := List.forall_mem_cons.mp row
      obtain ⟨otherDigit, otherRow⟩ := List.forall_mem_cons.mp otherRow
      have long : digits.length = others.length := Nat.succ.inj long
      rw [digitsValue_cons, digitsValue_cons, long] at same
      -- What the digits behind the first spell is below the place of the first one.
      have below := digitsValue_lt row
      have otherBelow := digitsValue_lt otherRow
      rw [long] at below
      have leading : ∀ first rest : Nat, rest < 10 ^ others.length →
          (first * 10 ^ others.length + rest) / 10 ^ others.length = first := by
        intro first rest below
        rw [Nat.add_comm, Nat.add_mul_div_right _ _ (Nat.pow_pos (by decide)),
          Nat.div_eq_of_lt below, Nat.zero_add]
      have first : digitValue c = digitValue d := by
        rw [← leading (digitValue c) _ below, same, leading (digitValue d) _ otherBelow]
      rw [first] at same
      rw [eq_of_digitValue digit otherDigit first, ih row otherRow long (by omega)]

/-- Zeros in front of a row of digits do not change what it spells. -/
theorem digitsValue_padZeros (width : Nat) (digits : List Char) :
    digitsValue (padZeros width digits) = digitsValue digits := by
  -- The induction is on the zeros, each of which adds nothing.
  unfold padZeros
  induction width - digits.length with
  | zero => rfl
  | succ zeros ih =>
    have zero : digitValue '0' = 0 := rfl
    rw [List.replicate_succ, List.cons_append, digitsValue_cons, zero, Nat.zero_mul, Nat.zero_add,
      ih]

/-- Zeros and a number behind them are digits only. -/
theorem isDigit_of_mem_padZeros {c : Char} (member : c ∈ padZeros width (natDigits value)) :
    c.isDigit = true := by
  -- A character comes from the one part or from the other.
  rcases List.mem_append.mp member with zero | digit
  · rw [List.eq_of_mem_replicate zero]
    rfl
  · exact isDigit_of_mem_natDigits digit

/-- A number that fits is written with as many digits as the width asks for. -/
theorem length_padZeros (positive : 0 < width) (fits : value < 10 ^ width) :
    (padZeros width (natDigits value)).length = width := by
  -- The number needs no more digits than the width, and zeros fill the rest.
  have short : (natDigits value).length ≤ width :=
    (Nat.length_toDigits_le_iff (by decide) positive).mpr fits
  rw [padZeros, List.length_append, List.length_replicate]
  omega

/-- A row of digits is the number it spells, written as wide as the row is. -/
theorem padZeros_digitsValue (some : digits ≠ []) (row : ∀ c ∈ digits, c.isDigit = true) :
    padZeros digits.length (natDigits (digitsValue digits)) = digits := by
  refine eq_of_digitsValue (fun c => isDigit_of_mem_padZeros) row ?_ ?_
  · exact length_padZeros (List.length_pos_iff.mpr some) (digitsValue_lt row)
  · rw [digitsValue_padZeros, digitsValue_natDigits]

/-- No width asks for no zeros. -/
@[simp] theorem padZeros_zero (digits : List Char) : padZeros 0 digits = digits := by
  rw [padZeros, Nat.zero_sub, List.replicate_zero, List.nil_append]

/-- Digits with zeros in front are as many as the width asks for, or more. -/
theorem le_length_padZeros (width : Nat) (digits : List Char) :
    width ≤ (padZeros width digits).length := by
  rw [padZeros, List.length_append, List.length_replicate]
  omega

/-- Digits that are wider than they have to be are without a zero in front. -/
theorem head?_padZeros_natDigits (wide : width < (padZeros width (natDigits value)).length)
    (positive : 0 < width) : (padZeros width (natDigits value)).head? ≠ some '0' := by
  -- The number alone is wider, so that no zeros stand in front of it, and it is not zero.
  have alone : width < (natDigits value).length := by
    rw [padZeros, List.length_append, List.length_replicate] at wide
    omega
  have nonzero : 0 < value := by
    rcases Nat.eq_zero_or_pos value with rfl | nonzero
    · have single : (natDigits 0).length = 1 := rfl
      omega
    · exact nonzero
  rw [padZeros, Nat.sub_eq_zero_of_le (Nat.le_of_lt alone)]
  exact head?_natDigits nonzero

/-- Digits with zeros in front only as far as a width asks for them are the number they spell. -/
theorem padZeros_digitsValue_of_head? (nonempty : digits ≠ [])
    (row : ∀ c ∈ digits, c.isDigit = true) (wide : width ≤ digits.length)
    (lead : width < digits.length → digits.head? ≠ some '0') :
    padZeros width (natDigits (digitsValue digits)) = digits := by
  -- A row wider than asked for must not have a zero in front.
  have full := padZeros_digitsValue nonempty row
  rcases Nat.eq_or_lt_of_le wide with rfl | wider
  · exact full
  · -- Written as wide as the row is, the number has no zeros in front, and needs none here either.
    unfold padZeros at full ⊢
    cases zeros : digits.length - (natDigits (digitsValue digits)).length with
    | zero =>
      rw [zeros] at full
      rw [Nat.sub_eq_zero_of_le (by omega)]
      exact full
    | succ zeros =>
      rw [zeros, List.replicate_succ, List.cons_append] at full
      exact absurd (by rw [← full]; rfl) (lead wider)

end Rows

end Scoreboard
