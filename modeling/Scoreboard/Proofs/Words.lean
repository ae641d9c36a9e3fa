import Mathlib.Algebra.Group.Int.Defs
import Scoreboard.Word

/-! Words of sixty-four bits: arithmetic on them is exact where its result fits, and fails elsewhere. -/

namespace Scoreboard

variable {value : Int}

/-- What a word stands for is held by a word. -/
theorem fits_toInt (word : Int64) : Fits word.toInt :=
  ⟨Int64.le_toInt word, Int64.toInt_lt word⟩

/-- An integer that fits comes back from its word. -/
theorem toInt_ofInt_of_fits (fits : Fits value) : (Int64.ofInt value).toInt = value :=
  Int64.toInt_ofInt_of_le fits.1 fits.2

/-- An integer that fits has a word, and that stands for it. -/
theorem wordOf?_of_fits (fits : Fits value) : wordOf? value = some (Int64.ofInt value) :=
  if_pos fits

/-- An integer that does not fit has no word. -/
theorem wordOf?_of_not_fits (out : ¬ Fits value) : wordOf? value = none :=
  if_neg out

/-- The smaller of two words stands for the smaller integer. -/
theorem toInt_min (one other : Int64) : (min one other).toInt = min one.toInt other.toInt := by
  -- The order of words is the order of the integers that they stand for.
  by_cases order : one ≤ other
  · have least := Int64.le_iff_toInt_le.mp order
    rw [show min one other = one from if_pos order, Int.min_eq_left least]
  · have above := mt Int64.le_iff_toInt_le.mpr order
    rw [show min one other = other from if_neg order, Int.min_eq_right (by omega)]

/-- The larger of two words stands for the larger integer. -/
theorem toInt_max (one other : Int64) : (max one other).toInt = max one.toInt other.toInt := by
  -- The two orders agree here as well, with the places changed.
  by_cases order : one ≤ other
  · have least := Int64.le_iff_toInt_le.mp order
    rw [show max one other = other from if_pos order, Int.max_eq_right least]
  · have above := mt Int64.le_iff_toInt_le.mpr order
    rw [show max one other = one from if_neg order, Int.max_eq_left (by omega)]

end Scoreboard
