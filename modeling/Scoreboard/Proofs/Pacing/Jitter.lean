import Scoreboard.Pacing.PollDelay
import Scoreboard.Proofs.Decimal.Finite

/-! Jitter: whatever number is drawn, it adds half a second at most. -/

namespace Scoreboard

open Float.Model

section Nanoseconds

/-- A number of units that is at most half of all, but for less than there are in one. -/
def HalfAtMost (mantissa : Nat) (exponent : Int) : Prop :=
  ∃ places : Nat, exponent = -places ∧ mantissa * 2 ^ 53 ≤ (2 ^ 52 + 1) * 2 ^ places

/-- A smaller double of the same kind lasts no longer. -/
theorem HalfAtMost.mono {mantissa fewer : Nat} {exponent lower : Int}
    (half : HalfAtMost mantissa exponent) (less : fewer ≤ mantissa) (below : lower ≤ exponent) :
    HalfAtMost fewer lower := by
  obtain ⟨places, rfl, bound⟩ := half
  refine ⟨(-lower).toNat, by omega, ?_⟩
  -- A lower exponent means more places, and so more units in the whole.
  have more : 2 ^ places ≤ 2 ^ (-lower).toNat := Nat.pow_le_pow_right (by decide) (by omega)
  calc fewer * 2 ^ 53 ≤ mantissa * 2 ^ 53 := Nat.mul_le_mul_right _ less
    _ ≤ (2 ^ 52 + 1) * 2 ^ places := bound
    _ ≤ (2 ^ 52 + 1) * 2 ^ (-lower).toNat := Nat.mul_le_mul_left _ more

/-- A number below one is rounded by what is left over when it is taken so many times. -/
theorem roundTimes_of_places {x : Dyadic} {places : Nat} (exponent : x.exponent = -places)
    (times : Nat) : x.roundTimes times =
      match compare (2 * (x.mantissa * times % 2 ^ places)) (2 ^ places) with
      | .lt => x.mantissa * times / 2 ^ places
      | .gt => x.mantissa * times / 2 ^ places + 1
      | .eq => x.mantissa * times / 2 ^ places + x.mantissa * times / 2 ^ places % 2 := by
  -- Below one the exponent is negative, so nothing is moved up.
  have whole : x.exponent.toNat = 0 := by omega
  have parts : (-x.exponent).toNat = places := by omega
  cases order : compare (2 * (x.mantissa * times % 2 ^ places)) (2 ^ places) <;>
    simp [Dyadic.roundTimes, whole, parts, order]

/-- Half a second at most is half a second at most to the nearest nanosecond. -/
theorem roundTimes_le_half {x : Dyadic} (half : HalfAtMost x.mantissa x.exponent) :
    x.roundTimes 1000000000 ≤ 500000000 := by
  obtain ⟨places, exponent, bound⟩ := half
  rw [roundTimes_of_places exponent]
  have positive : 0 < 2 ^ places := Nat.two_pow_pos places
  have split := Nat.div_add_mod (x.mantissa * 1000000000) (2 ^ places)
  generalize 2 ^ places = divisor at *
  generalize x.mantissa * 1000000000 / divisor = below at *
  generalize x.mantissa * 1000000000 % divisor = remainder at *
  -- What the bound allows above a half is less than one nanosecond.
  have atMost : below ≤ 500000000 := by
    refine Nat.le_of_not_lt fun more => ?_
    have much : divisor * 500000001 ≤ divisor * below := Nat.mul_le_mul_left _ more
    omega
  rcases Nat.lt_or_eq_of_le atMost with less | full
  · have parity : below % 2 ≤ 1 := Nat.le_of_lt_succ (Nat.mod_lt below (by decide))
    cases compare (2 * remainder) divisor with
    | lt => exact atMost
    | gt => exact less
    | eq => exact Nat.le_trans (Nat.add_le_add_left parity below) less
  · -- With half a second below, so little remains that it is rounded down.
    rw [full] at split
    rw [Nat.compare_eq_lt.mpr (by omega)]
    exact atMost

end Nanoseconds

section Bits

/-- The exponent stands in eleven bits behind the fraction. -/
theorem toNat_unpackExponent (bits : UInt64) :
    (@UnpackedFloat.unpackExponent .binary64 bits.toBitVec).toNat =
      bits.toNat / 2 ^ 52 % 2 ^ 11 := by
  show (bits.toBitVec.extractLsb' 52 11).toNat = _
  rw [BitVec.extractLsb'_toNat, Nat.shiftRight_eq_div_pow]
  rfl

/-- The fraction stands in the lowest 52 bits. -/
theorem toNat_unpackMantissa (bits : UInt64) :
    (@UnpackedFloat.unpackMantissa .binary64 bits.toBitVec).toNat = bits.toNat % 2 ^ 52 := by
  show (bits.toBitVec.extractLsb' 0 52).toNat = _
  rw [BitVec.extractLsb'_toNat, Nat.shiftRight_eq_div_pow]
  exact congrArg (· % 2 ^ 52) (Nat.div_one bits.toNat)

/-- The size of a double is in its exponent and its fraction. -/
theorem ofFloat_spec (x : Float) :
    (Dyadic.ofFloat x).mantissa =
        (if (@UnpackedFloat.unpackExponent .binary64 x.toBits.toBitVec).toNat = 0 then 0
          else 2 ^ 52) + (@UnpackedFloat.unpackMantissa .binary64 x.toBits.toBitVec).toNat ∧
      (Dyadic.ofFloat x).exponent =
        (max (@UnpackedFloat.unpackExponent .binary64 x.toBits.toBitVec).toNat 1 : Nat) - 1075 := by
  -- Masks of ones cut a number off at a power of two.
  have exponent : (((x.toBits &&& 0x7FFFFFFFFFFFFFFF) >>> 52) &&& 0x7FF).toNat =
      x.toBits.toNat / 2 ^ 52 % 2 ^ 11 := by
    rw [UInt64.toNat_and, UInt64.toNat_shiftRight, UInt64.toNat_and]
    show (x.toBits.toNat &&& (2 ^ 63 - 1)) >>> 52 &&& (2 ^ 11 - 1) = _
    rw [Nat.and_two_pow_sub_one_eq_mod, Nat.and_two_pow_sub_one_eq_mod, Nat.shiftRight_eq_div_pow]
    omega
  have mantissa : ((x.toBits &&& 0x7FFFFFFFFFFFFFFF) &&& 0xFFFFFFFFFFFFF).toNat =
      x.toBits.toNat % 2 ^ 52 := by
    rw [UInt64.toNat_and, UInt64.toNat_and]
    show (x.toBits.toNat &&& (2 ^ 63 - 1)) &&& (2 ^ 52 - 1) = _
    rw [Nat.and_two_pow_sub_one_eq_mod, Nat.and_two_pow_sub_one_eq_mod]
    omega
  rw [toNat_unpackExponent, toNat_unpackMantissa, ← exponent, ← mantissa]
  unfold Dyadic.ofFloat Dyadic.ofBits
  dsimp only
  -- A double at the bottom has no implied bit, and the exponent of the lowest ones that have it.
  by_cases zero : (((x.toBits &&& 0x7FFFFFFFFFFFFFFF) >>> 52) &&& 0x7FF).toNat = 0
  · rw [if_pos zero, if_pos zero, zero]
    exact ⟨(Nat.zero_add _).symm, rfl⟩
  · rw [if_neg zero, if_neg zero, Nat.max_eq_left (Nat.one_le_iff_ne_zero.mpr zero)]
    exact ⟨rfl, rfl⟩

/-- The size of a double is told by the exponent and the fraction that it is made of. -/
theorem ofFloat_of_packed {x : Float} {sign : UnpackedFloat.Sign} {exponent : BitVec 11}
    {fraction : BitVec 52}
    (packed : x.toBits.toBitVec = UnpackedFloat.packComponents .binary64 sign exponent fraction) :
    (Dyadic.ofFloat x).mantissa = (if exponent.toNat = 0 then 0 else 2 ^ 52) + fraction.toNat ∧
      (Dyadic.ofFloat x).exponent = (max exponent.toNat 1 : Nat) - 1075 := by
  -- What is packed is unpacked again.
  have spec := ofFloat_spec x
  rw [packed, UnpackedFloat.unpackExponent_packComponents,
    UnpackedFloat.unpackMantissa_packComponents] at spec
  exact spec

/-- A double that is packed is not larger than before. -/
theorem ofFloat_pack_le {sign : UnpackedFloat.Sign} {mantissa : Nat} {exponent : Int}
    {positive : 0 < mantissa} (low : -1074 ≤ exponent) (high : exponent ≤ 971) :
    (Dyadic.ofFloat (.ofModel (pack (.finite sign mantissa exponent positive)))).mantissa ≤
        mantissa ∧
      (Dyadic.ofFloat (.ofModel (pack (.finite sign mantissa exponent positive)))).exponent ≤
        exponent := by
  have biased : (exponent + 1023 + 52).toNat < 2 ^ 11 := by omega
  have packed : (Float.ofModel (pack (.finite sign mantissa exponent positive))).toBits.toBitVec =
      if mantissa.log2 + 1 = 53 then
        UnpackedFloat.packComponents .binary64 sign (BitVec.ofNat 11 (exponent + 1023 + 52).toNat)
          (BitVec.ofNat 52 mantissa)
      else UnpackedFloat.packComponents .binary64 sign 0#11 (BitVec.ofNat 52 mantissa) := by
    show (if 2 ^ 11 ≤ (exponent + 1023 + 52).toNat + 1 then
      UnpackedFloat.packedInfinity .binary64 sign else _) = _
    -- The exponent is too low for the double to become infinite.
    rw [if_neg (by omega)]
    rfl
  by_cases normal : mantissa.log2 + 1 = 53
  · -- The highest bit of the mantissa is implied.
    rw [if_pos normal] at packed
    obtain ⟨mantissaIs, exponentIs⟩ := ofFloat_of_packed packed
    have long : 2 ^ 52 ≤ mantissa := (Nat.le_log2 (by omega)).mp (by omega)
    have short : mantissa < 2 ^ 53 := (Nat.log2_lt (by omega)).mp (by omega)
    rw [BitVec.toNat_ofNat, Nat.mod_eq_of_lt biased] at mantissaIs exponentIs
    rw [if_neg (by omega), BitVec.toNat_ofNat] at mantissaIs
    omega
  · -- A small double is at the bottom, with its whole mantissa for a fraction.
    rw [if_neg normal] at packed
    obtain ⟨mantissaIs, exponentIs⟩ := ofFloat_of_packed packed
    rw [if_pos (by rfl), Nat.zero_add, BitVec.toNat_ofNat] at mantissaIs
    rw [mantissaIs, exponentIs]
    exact ⟨Nat.mod_le _ _, low⟩

end Bits

section Products

/-- A double on a place that there is, at most half as large as one. -/
def Halved : UnpackedFloat → Prop
  | .zero _ => True
  | .finite _ mantissa exponent _ => -1074 ≤ exponent ∧ HalfAtMost mantissa exponent
  | _ => False

/-- A mantissa is shifted by whole places. -/
theorem mantissa_shift (extended : UnpackedFloat.ExtendedMantissa) (count : Nat) :
    (extended >>> count).mantissa = extended.mantissa / 2 ^ count := by
  -- The induction is on the places, each of which halves once more.
  show (count.repeat UnpackedFloat.ExtendedMantissa.shiftRightOne extended).mantissa = _
  induction count with
  | zero => exact (Nat.div_one _).symm
  | succ count ih =>
    show (count.repeat UnpackedFloat.ExtendedMantissa.shiftRightOne extended).mantissa / 2 = _
    rw [ih, Nat.div_div_eq_div_mul, Nat.pow_succ]

/-- A mantissa is shifted as far as it is too long, or up to the lowest place. -/
theorem shiftToTargetExponent_spec (mantissa : Nat) (exponent : Int) : ∃ count : Nat,
    (UnpackedFloat.shiftToTargetExponent .binary64 mantissa exponent .exact).1.mantissa =
        mantissa / 2 ^ count ∧
      (UnpackedFloat.shiftToTargetExponent .binary64 mantissa exponent .exact).2 =
        exponent + count ∧
      count = (max ((mantissa.log2 : Int) + 1 + exponent - 53) (-1074) - exponent).toNat :=
  ⟨_, mantissa_shift _ _, rfl, rfl⟩

/-- Half of the whole and one unit more, if there are 53 bits of units in the whole. -/
theorem half_add_unit_le {mantissa unit whole : Nat} (half : 2 * mantissa ≤ whole)
    (fine : unit * 2 ^ 53 ≤ whole) : (mantissa + unit) * 2 ^ 53 ≤ (2 ^ 52 + 1) * whole :=
  -- The half is taken 2 ^ 52 times, and the unit fits once more into the whole.
  calc (mantissa + unit) * 2 ^ 53
      = mantissa * (2 * 2 ^ 52) + unit * 2 ^ 53 := Nat.add_mul mantissa unit (2 ^ 53)
    _ = 2 * mantissa * 2 ^ 52 + unit * 2 ^ 53 := by rw [← Nat.mul_assoc, Nat.mul_comm 2]
    _ ≤ whole * 2 ^ 52 + whole := Nat.add_le_add (Nat.mul_le_mul_right (2 ^ 52) half) fine
    _ = (2 ^ 52 + 1) * whole := by rw [Nat.mul_comm whole, Nat.add_mul, Nat.one_mul]

/-- Shifted until 53 bits are left and rounded, a mantissa is still as short. -/
theorem roundedMantissa_log2_le {mantissa count : Nat} {extended : UnpackedFloat.ExtendedMantissa}
    (shifted : extended.mantissa = mantissa / 2 ^ count)
    (enough : mantissa.log2 + 1 ≤ 53 + count) : extended.roundedMantissa.log2 ≤ 53 := by
  have rounded := roundedMantissa_le extended
  rw [shifted] at rounded
  have few : mantissa / 2 ^ count < 2 ^ 53 := by
    refine Nat.div_lt_of_lt_mul (Nat.lt_of_lt_of_le Nat.lt_log2_self ?_)
    rw [← Nat.pow_add]
    exact Nat.pow_le_pow_right (by decide) (by omega)
  -- Rounding adds one at most, which makes 53 bits into a power of two.
  by_cases none : extended.roundedMantissa = 0
  · rw [none]
    decide
  · exact Nat.le_of_lt_succ ((Nat.log2_lt none).mpr (by omega))

/-- Shifted, rounded and shifted again, a mantissa has gained one unit of its places at most. -/
theorem shifted_twice_le {mantissa count more last : Nat}
    {extended : UnpackedFloat.ExtendedMantissa} (shifted : extended.mantissa = mantissa / 2 ^ count)
    (again : last = extended.roundedMantissa / 2 ^ more) :
    last * (2 ^ more * 2 ^ count) ≤ mantissa + 2 ^ count := by
  -- Each shift cuts off what is below its places, and rounding puts one unit back.
  have rounded := roundedMantissa_le extended
  rw [shifted] at rounded
  rw [again, ← Nat.mul_assoc]
  calc extended.roundedMantissa / 2 ^ more * 2 ^ more * 2 ^ count
      ≤ extended.roundedMantissa * 2 ^ count := Nat.mul_le_mul_right _ (Nat.div_mul_le_self _ _)
    _ ≤ (mantissa / 2 ^ count + 1) * 2 ^ count := Nat.mul_le_mul_right _ rounded
    _ = mantissa / 2 ^ count * 2 ^ count + 2 ^ count := by rw [Nat.add_mul, Nat.one_mul]
    _ ≤ mantissa + 2 ^ count := Nat.add_le_add_right (Nat.div_mul_le_self _ _) _

/-- A number below a half is still halved when it is rounded to a double. -/
theorem halved_roundWithAccuracy {mantissa places : Nat} (sign : UnpackedFloat.Sign)
    (room : 53 ≤ places) (half : 2 * mantissa ≤ 2 ^ places) :
    Halved (UnpackedFloat.roundWithAccuracy .binary64 sign mantissa (-places) .exact) := by
  unfold UnpackedFloat.roundWithAccuracy
  dsimp only
  obtain ⟨count, shifted, place, amount⟩ := shiftToTargetExponent_spec mantissa (-places)
  generalize UnpackedFloat.shiftToTargetExponent .binary64 mantissa (-places) .exact = first at *
  obtain ⟨more, shiftedAgain, placeAgain, amountAgain⟩ :=
    shiftToTargetExponent_spec first.1.roundedMantissa first.2
  generalize UnpackedFloat.shiftToTargetExponent .binary64 first.1.roundedMantissa first.2
    .exact = second at *
  by_cases zero : second.1.mantissa = 0
  · rw [dif_pos zero]
    trivial
  · rw [dif_neg zero]
    -- The mantissa is shifted so far that 53 bits are left, and rounding adds one at most.
    have log : mantissa.log2 < places := by
      by_cases none : mantissa = 0
      · subst none
        exact Nat.lt_of_lt_of_le (by decide) room
      · exact (Nat.log2_lt none).mpr (by omega)
    have again := roundedMantissa_log2_le shifted (by omega)
    refine ⟨by omega, places - count - more, by omega, ?_⟩
    have fine : 2 ^ count * 2 ^ 53 ≤ 2 ^ places := by
      rw [← Nat.pow_add]
      exact Nat.pow_le_pow_right (by decide) (by omega)
    -- Taken by all that was shifted, the bound is that of the mantissa, and of what rounding adds.
    have powers : 2 ^ places = 2 ^ (places - count - more) * (2 ^ more * 2 ^ count) := by
      rw [← Nat.pow_add, ← Nat.pow_add]
      congr 1
      omega
    have moved := shifted_twice_le shifted shiftedAgain
    refine Nat.le_of_mul_le_mul_right ?_ (Nat.mul_pos (Nat.two_pow_pos more) (Nat.two_pow_pos count))
    calc second.1.mantissa * 2 ^ 53 * (2 ^ more * 2 ^ count)
        = second.1.mantissa * (2 ^ more * 2 ^ count) * 2 ^ 53 := Nat.mul_right_comm _ _ _
      _ ≤ (mantissa + 2 ^ count) * 2 ^ 53 := Nat.mul_le_mul_right (2 ^ 53) moved
      _ ≤ (2 ^ 52 + 1) * 2 ^ places := half_add_unit_le half fine
      _ = (2 ^ 52 + 1) * 2 ^ (places - count - more) * (2 ^ more * 2 ^ count) := by
        rw [powers, Nat.mul_assoc]

/-- A double that is halved lasts half a second at most. -/
theorem roundTimes_of_halved {unpacked : UnpackedFloat} (halved : Halved unpacked) :
    (Dyadic.ofFloat (.ofModel (pack unpacked))).roundTimes 1000000000 ≤ 500000000 := by
  -- Packing makes a finite double no larger, and zero lasts no time.
  cases unpacked with
  | zero sign => cases sign <;> decide +kernel
  | finite sign mantissa exponent positive =>
    obtain ⟨low, half⟩ := halved
    have high : exponent ≤ 971 := by
      obtain ⟨places, rfl, _⟩ := half
      omega
    obtain ⟨less, below⟩ := @ofFloat_pack_le sign mantissa exponent positive low high
    exact roundTimes_le_half (half.mono less below)
  | infinity sign => cases halved
  | notANumber => cases halved

end Products

section Shares

/-- Doubles are compared by what they unpack to. -/
theorem lt_iff_unpack {x y : Float} :
    x < y ↔ UnpackedFloat.lt x.toModel.unpack y.toModel.unpack = true := by
  -- The comparison decides a test of what is unpacked.
  show Float.lt x y = true ↔ _
  unfold Float.lt
  rw [decide_eq_true_iff]
  rfl

/-- A double between zero and one is zero, or positive and no larger than one. -/
theorem unpack_of_share {jitter : Float} (number : jitter.isNaN = false) (low : ¬ jitter < 0.0)
    (high : ¬ jitter > 1.0) : (∃ sign, jitter.toModel.unpack = .zero sign) ∨
      ∃ mantissa exponent positive,
        jitter.toModel.unpack = .finite .positive mantissa exponent positive ∧
          (exponent < -52 ∨ exponent = -52 ∧ mantissa ≤ 2 ^ 52) := by
  have zero : (0.0 : Float).toModel.unpack = .zero .positive := by rfl
  have one : (1.0 : Float).toModel.unpack = .finite .positive (2 ^ 52) (-52) (by decide) := by rfl
  have number : jitter.toModel.unpack.isNaN = false := number
  rw [lt_iff_unpack, zero] at low
  rw [gt_iff_lt, lt_iff_unpack, one] at high
  cases shape : jitter.toModel.unpack with
  | zero sign => exact .inl ⟨sign, rfl⟩
  | notANumber =>
    rw [shape] at number
    cases number
  | infinity sign =>
    -- One infinity is below zero, and the other one is above one.
    rw [shape] at low high
    cases sign with
    | negative => exact absurd rfl low
    | positive => exact absurd rfl high
  | finite sign mantissa exponent positive =>
    rw [shape] at low high
    cases sign with
    | negative => exact absurd rfl low
    | positive =>
      -- Exponents are compared first, and mantissas only if these are the same.
      have order : ¬ (compare (-52) exponent).then (compare (2 ^ 52) mantissa) = .lt := by
        intro less
        refine high ?_
        show (some _ == some Ordering.lt) = true
        rw [less]
        rfl
      rw [Ordering.then_eq_lt, Int.compare_eq_lt, Int.compare_eq_eq, Nat.compare_eq_lt] at order
      exact .inr ⟨_, _, _, rfl, by omega⟩

/-- Half of a double between zero and one is a half at most. -/
theorem halved_mul {jitter : Float} (number : jitter.isNaN = false) (low : ¬ jitter < 0.0)
    (high : ¬ jitter > 1.0) :
    Halved (UnpackedFloat.mul .binary64 jitter.toModel.unpack (0.5 : Float).toModel.unpack) := by
  have half : (0.5 : Float).toModel.unpack = .finite .positive (2 ^ 52) (-53) (by decide) := by rfl
  rw [half]
  rcases unpack_of_share number low high with
    ⟨sign, zero⟩ | ⟨mantissa, exponent, positive, finite, share⟩
  · rw [zero]
    trivial
  · have short := log2_lt_of_unpack finite
    have places : exponent + -53 = -((53 - exponent).toNat : Int) := by omega
    rw [finite]
    show Halved (UnpackedFloat.roundWithAccuracy .binary64 _ (mantissa * 2 ^ 52) (exponent + -53)
      .exact)
    rw [places]
    refine halved_roundWithAccuracy _ (by omega) ?_
    -- The product has one place more below the point than its mantissa can fill.
    rcases share with below | ⟨rfl, atMost⟩
    · have room : mantissa < 2 ^ 53 := (Nat.log2_lt (by omega)).mp short
      calc 2 * (mantissa * 2 ^ 52) = mantissa * 2 ^ 53 := by omega
        _ ≤ 2 ^ 53 * 2 ^ 53 := Nat.mul_le_mul_right _ (Nat.le_of_lt room)
        _ = 2 ^ 106 := by decide
        _ ≤ 2 ^ (53 - exponent).toNat := Nat.pow_le_pow_right (by decide) (by omega)
    · show 2 * (mantissa * 2 ^ 52) ≤ 2 ^ 105
      omega

/-- Jitter adds half a second at most, whatever number it is made of. -/
theorem jitterSpan_le {jitter : Float} (number : jitter.isNaN = false) :
    (jitterSpan jitter).nanoseconds ≤ 500000000 := by
  -- Jitter is cut to the numbers from zero to one, and half of those is half at most.
  unfold jitterSpan
  dsimp only
  split
  · decide +kernel
  · split
    · decide +kernel
    · rename_i low high
      exact roundTimes_of_halved (halved_mul number low high)

end Shares

end Scoreboard
