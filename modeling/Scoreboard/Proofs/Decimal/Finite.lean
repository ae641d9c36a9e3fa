import Scoreboard.Proofs.Json.Numerals

/-! Finite doubles: no number literal that is read stands for an infinity. -/

namespace Scoreboard

open Float.Model

/-- A double that is not infinite, with an exponent that does not pass a limit. -/
def Within (limit : Int) : UnpackedFloat → Prop
  | .zero _ => True
  | .finite _ _ exponent _ => exponent ≤ limit
  | _ => False

section Packing

variable {unpacked : UnpackedFloat} {limit : Int}

/-- A limit may be raised. -/
theorem Within.mono (within : Within limit unpacked) {more : Int} (order : limit ≤ more) :
    Within more unpacked := by
  cases unpacked with
  | finite sign mantissa exponent positive => exact Int.le_trans within order
  | _ => exact within

/-- The sign of a double does not matter to its limit. -/
theorem Within.neg (within : Within limit unpacked) : Within limit unpacked.neg := by
  cases unpacked <;> exact within

/-- Whatever is within a limit is finite. -/
theorem Within.isFinite (within : Within limit unpacked) : unpacked.isFinite = true := by
  -- Only zeros and finite doubles are within one.
  cases unpacked with
  | zero sign => rfl
  | finite sign mantissa exponent positive => rfl
  | infinity sign => cases within
  | notANumber => cases within

/-- The bits of a double are its sign, eleven bits of exponent and 52 bits of fraction. -/
theorem unpack_binary64 (bits : BitVec Format.binary64.numBits) :
    UnpackedFloat.unpack .binary64 bits =
      if UnpackedFloat.unpackExponent bits = -1#11 then
        if UnpackedFloat.unpackMantissa bits = 0#52 then
          .infinity (.ofBitVec (UnpackedFloat.unpackSign bits))
        else .notANumber
      else if UnpackedFloat.unpackExponent bits = 0#11 then
        if zero : UnpackedFloat.unpackMantissa bits = 0#52 then
          .zero (.ofBitVec (UnpackedFloat.unpackSign bits))
        else .finite (.ofBitVec (UnpackedFloat.unpackSign bits))
          (UnpackedFloat.unpackMantissa bits).toNat
          ((UnpackedFloat.unpackExponent bits).toNat - 1075 + 1)
          (Nat.pos_of_ne_zero fun none => zero (BitVec.eq_of_toNat_eq none))
      else .finite (.ofBitVec (UnpackedFloat.unpackSign bits))
        (1#1 ++ UnpackedFloat.unpackMantissa bits).toNat
        ((UnpackedFloat.unpackExponent bits).toNat - 1075) (by
          rw [BitVec.toNat_append]
          exact Nat.or_pos_iff.mpr (.inl (by decide))) :=
  rfl

/-- Bits with an exponent below the topmost one are those of a finite double. -/
theorem within_unpack_bits (bits : BitVec Format.binary64.numBits)
    (low : UnpackedFloat.unpackExponent bits ≠ -1#11) :
    Within (max (((UnpackedFloat.unpackExponent bits).toNat : Int) - 1075) (-1074))
      (UnpackedFloat.unpack .binary64 bits) := by
  -- The exponent of the bits is read with an offset, and a subnormal double has the least one.
  rw [unpack_binary64, if_neg low]
  by_cases bottom : UnpackedFloat.unpackExponent bits = 0#11
  · -- Without an exponent the double is zero or subnormal.
    rw [if_pos bottom]
    by_cases zero : UnpackedFloat.unpackMantissa bits = 0#52
    · rw [dif_pos zero]
      trivial
    · rw [dif_neg zero]
      show ((UnpackedFloat.unpackExponent bits).toNat : Int) - 1075 + 1 ≤ _
      have none : (UnpackedFloat.unpackExponent bits).toNat = 0 := by rw [bottom]; rfl
      omega
  · rw [if_neg bottom]
    show ((UnpackedFloat.unpackExponent bits).toNat : Int) - 1075 ≤ _
    omega

/-- Parts with an exponent below the topmost one are those of a finite double. -/
theorem within_unpack_packComponents (sign : UnpackedFloat.Sign) (exponent : BitVec 11)
    (mantissa : BitVec 52) (low : exponent.toNat ≤ 2046) :
    Within (max ((exponent.toNat : Int) - 1075) (-1074))
      (UnpackedFloat.unpack .binary64
        (UnpackedFloat.packComponents .binary64 sign exponent mantissa)) := by
  -- The exponent that is packed is the one that is unpacked again, and not the topmost.
  have finite : exponent ≠ -1#11 := by
    rintro rfl
    exact absurd low (by decide)
  have within := within_unpack_bits
    (UnpackedFloat.packComponents .binary64 sign exponent mantissa)
  rw [UnpackedFloat.unpackExponent_packComponents] at within
  exact within finite

/-- A double with an exponent that fits is still finite when it has been packed. -/
theorem Within.unpack_pack (within : Within limit unpacked) (fits : limit ≤ 971) :
    Within (max limit (-1074)) (pack unpacked).unpack := by
  show Within _ (UnpackedFloat.unpack .binary64 (UnpackedFloat.pack .binary64 unpacked))
  -- A small double is packed without an exponent, and stands at the bottom then.
  have bottom : ∀ sign mantissa, Within (max limit (-1074)) (UnpackedFloat.unpack .binary64
      (UnpackedFloat.packComponents .binary64 sign 0#11 mantissa)) := fun sign mantissa =>
    (within_unpack_packComponents sign 0#11 mantissa (by decide)).mono (Int.le_max_right _ _)
  cases unpacked with
  | zero sign => exact bottom sign 0#52
  | finite sign mantissa exponent positive =>
    have below : exponent ≤ limit := within
    have biased : (exponent + 1023 + 52).toNat ≤ 2046 := by omega
    unfold UnpackedFloat.pack
    show Within _ (UnpackedFloat.unpack .binary64
      (if 2 ^ 11 ≤ (exponent + 1023 + 52).toNat + 1 then
        UnpackedFloat.packedInfinity .binary64 sign
      else if mantissa.log2 + 1 = 53 then
        UnpackedFloat.packComponents .binary64 sign (BitVec.ofNat 11 (exponent + 1023 + 52).toNat)
          (BitVec.ofNat 52 mantissa)
      else UnpackedFloat.packComponents .binary64 sign 0#11 (BitVec.ofNat 52 mantissa)))
    rw [if_neg (by omega)]
    split
    · have same : (BitVec.ofNat 11 (exponent + 1023 + 52).toNat).toNat =
          (exponent + 1023 + 52).toNat := by
        rw [BitVec.toNat_ofNat]
        exact Nat.mod_eq_of_lt (by omega)
      have low := Nat.le_trans (Nat.le_of_eq same) biased
      refine (within_unpack_packComponents sign _ _ low).mono ?_
      rw [same]
      omega
    · exact bottom sign _
  | infinity sign => cases within
  | notANumber => cases within

/-- Every finite double has an exponent that fits. -/
theorem within_unpack {model : Float.Model} (finite : model.isFinite = true) :
    Within 971 model.unpack := by
  -- The topmost exponent is left to infinities and to what is no number.
  have low : @UnpackedFloat.unpackExponent .binary64 model.toBits.toBitVec ≠ -1#11 := by
    intro top
    rw [Float.Model.isFinite, Float.Model.unpack, unpack_binary64, if_pos top] at finite
    split at finite <;> cases finite
  refine (within_unpack_bits model.toBits.toBitVec low).mono ?_
  have bound : (@UnpackedFloat.unpackExponent .binary64 model.toBits.toBitVec).toNat <
      2 ^ 11 := BitVec.isLt _
  have other : (@UnpackedFloat.unpackExponent .binary64 model.toBits.toBitVec).toNat ≠
      2047 := fun top => low (BitVec.eq_of_toNat_eq top)
  omega

end Packing

section Rounding

/-- A mantissa that is shifted does not grow. -/
theorem mantissa_shift_le (extended : UnpackedFloat.ExtendedMantissa) (count : Nat) :
    (extended >>> count).mantissa ≤ extended.mantissa := by
  -- The induction is on the shifts, each of which halves.
  show (count.repeat UnpackedFloat.ExtendedMantissa.shiftRightOne extended).mantissa ≤ _
  induction count with
  | zero => exact Nat.le_refl _
  | succ count ih => exact Nat.le_trans (Nat.div_le_self _ _) ih

/-- A mantissa that is rounded grows by one at most. -/
theorem roundedMantissa_le (extended : UnpackedFloat.ExtendedMantissa) :
    extended.roundedMantissa ≤ extended.mantissa + 1 := by
  unfold UnpackedFloat.ExtendedMantissa.roundedMantissa UnpackedFloat.Accuracy.roundToNearestEven
  split <;> omega

/-- The logarithm of a number grows by one at most when the number does. -/
theorem log2_le_of_le_succ {mantissa rounded : Nat} (close : rounded ≤ mantissa + 1) :
    rounded.log2 ≤ mantissa.log2 + 1 := by
  -- A number below a power of two is doubled at most.
  by_cases zero : rounded = 0
  · subst zero
    exact Nat.zero_le _
  · have above : mantissa < 2 ^ (mantissa.log2 + 1) := Nat.lt_log2_self
    have power : 2 ^ (mantissa.log2 + 2) = 2 * 2 ^ (mantissa.log2 + 1) := by
      rw [Nat.pow_succ _ (mantissa.log2 + 1), Nat.mul_comm]
    refine Nat.le_of_lt_succ ((Nat.log2_lt zero).mpr ?_)
    omega

/-- Where a mantissa is shifted to is bounded by its size, and it does not grow. -/
theorem shiftToTargetExponent_le (mantissa : Nat) (exponent : Int) :
    (UnpackedFloat.shiftToTargetExponent .binary64 mantissa exponent .exact).1.mantissa ≤
        mantissa ∧
      (UnpackedFloat.shiftToTargetExponent .binary64 mantissa exponent .exact).2 ≤
        max exponent (-1074) + mantissa.log2 := by
  refine ⟨mantissa_shift_le _ _, ?_⟩
  -- The exponent rises only where the mantissa is too long, or up to the smallest exponent.
  show exponent + ((max ((mantissa.log2 : Int) + 1 + exponent - 53) (-1074) - exponent).toNat : Int)
    ≤ _
  omega

/-- The exponent that a double is rounded to is bounded by its size. -/
theorem within_roundWithAccuracy (sign : UnpackedFloat.Sign) (mantissa : Nat) (exponent : Int) :
    Within (max exponent (-1074) + 2 * mantissa.log2 + 1)
      (UnpackedFloat.roundWithAccuracy .binary64 sign mantissa exponent .exact) := by
  unfold UnpackedFloat.roundWithAccuracy
  dsimp only
  generalize first :
    UnpackedFloat.shiftToTargetExponent .binary64 mantissa exponent .exact = shifted
  obtain ⟨smaller, near⟩ := first ▸ shiftToTargetExponent_le mantissa exponent
  -- The mantissa is shifted once more when rounding has made it longer.
  have again := (shiftToTargetExponent_le shifted.1.roundedMantissa shifted.2).2
  have longer := log2_le_of_le_succ (Nat.le_trans (roundedMantissa_le shifted.1)
    (Nat.add_le_add_right smaller 1))
  by_cases zero : (UnpackedFloat.shiftToTargetExponent .binary64 shifted.1.roundedMantissa
      shifted.2 .exact).1.mantissa = 0
  · rw [dif_pos zero]
    trivial
  · rw [dif_neg zero]
    refine Int.le_trans again ?_
    omega

end Rounding

section Literals

/-- A mantissa and an exponent of moderate size make a finite double. -/
theorem isFinite_round {sign : UnpackedFloat.Sign} {mantissa bits : Nat} {exponent : Int}
    (room : mantissa.log2 < bits) (moderate : max exponent (-1074) + 2 * bits ≤ 971) :
    (pack (UnpackedFloat.roundWithAccuracy .binary64 sign mantissa exponent .exact)).isFinite =
      true := by
  -- What is rounded stays within a limit that packing has room for.
  have within : Within 971
      (UnpackedFloat.roundWithAccuracy .binary64 sign mantissa exponent .exact) :=
    (within_roundWithAccuracy sign mantissa exponent).mono (by omega)
  exact (within.unpack_pack (by decide)).isFinite

/-- A number moved up by some bits has a logarithm larger by as many. -/
theorem log2_shiftLeft_lt {mantissa count bits : Nat} (positive : 0 < mantissa)
    (room : mantissa.log2 + count < bits) : (mantissa <<< count).log2 < bits := by
  -- A number below a power of two stays below that power, moved up as well.
  have below : mantissa < 2 ^ (mantissa.log2 + 1) := Nat.lt_log2_self
  have factor : 0 < 2 ^ count := Nat.two_pow_pos count
  have moved : mantissa * 2 ^ count < 2 ^ (mantissa.log2 + 1 + count) := by
    rw [Nat.pow_add _ _ count]
    exact Nat.mul_lt_mul_of_pos_right below factor
  have top : 2 ^ (mantissa.log2 + 1 + count) ≤ 2 ^ bits :=
    Nat.pow_le_pow_right (by decide) (by omega)
  rw [Nat.shiftLeft_eq]
  exact (Nat.log2_lt (Nat.mul_ne_zero (by omega) (by omega))).mpr (by omega)

/-- A whole number that a mantissa has room for is rounded to a moderate exponent. -/
theorem within_round {whole : Nat} (positive : 0 < whole) (room : whole.log2 < 53) :
    Within 105 (UnpackedFloat.round .binary64 .positive whole 0) := by
  -- The number is moved up to a full mantissa before it is rounded.
  have target : Format.binary64.targetExponent (totalExponent whole 0) =
      (whole.log2 : Int) - 52 := by
    show max ((whole.log2 : Int) + 1 + 0 - 53) (-1074) = _
    omega
  have full : (whole <<< (52 - whole.log2)).log2 < 53 := log2_shiftLeft_lt positive (by omega)
  have amount : ((0 : Int) - ((whole.log2 : Int) - 52)).toNat = 52 - whole.log2 := by omega
  rw [UnpackedFloat.round, target, UnpackedFloat.decreaseExponent, amount]
  refine (within_roundWithAccuracy _ _ _).mono ?_
  omega

/-- A whole number that a mantissa has room for is a double with a moderate exponent. -/
theorem within_unpack_ofUInt64 {value : UInt64} (room : value.toNat.log2 < 53) :
    Within 105 (Float.Model.ofUInt64 value).unpack := by
  -- A number without further bits is normalised exactly, zero apart.
  have normal : Within 105 (UnpackedFloat.normalize .binary64 value.toNat 0 .positive) := by
    rcases Nat.eq_zero_or_pos value.toNat with zero | positive
    · rw [zero]
      trivial
    · rw [UnpackedFloat.normalize, Int.compare_eq_gt.mpr (by omega), Int.toNat_natCast]
      exact within_round positive room
  exact normal.unpack_pack (by decide)

/-- No mantissa has more bits than there is room for. -/
theorem log2_lt_of_unpack {model : Float.Model} {sign : UnpackedFloat.Sign} {mantissa : Nat}
    {exponent : Int} {positive : 0 < mantissa}
    (unpacked : model.unpack = .finite sign mantissa exponent positive) : mantissa.log2 < 53 := by
  -- Bits unpack to a finite double only if they are subnormal or normal.
  refine (Nat.log2_lt (by omega)).mpr ?_
  rw [Float.Model.unpack, unpack_binary64] at unpacked
  by_cases top : @UnpackedFloat.unpackExponent .binary64 model.toBits.toBitVec = -1#11
  · rw [if_pos top] at unpacked
    by_cases zero : @UnpackedFloat.unpackMantissa .binary64 model.toBits.toBitVec = 0#52
    · rw [if_pos zero] at unpacked
      cases unpacked
    · rw [if_neg zero] at unpacked
      cases unpacked
  · rw [if_neg top] at unpacked
    by_cases bottom : @UnpackedFloat.unpackExponent .binary64 model.toBits.toBitVec = 0#11
    · -- A subnormal double has the bits of its fraction only.
      rw [if_pos bottom] at unpacked
      by_cases zero : @UnpackedFloat.unpackMantissa .binary64 model.toBits.toBitVec = 0#52
      · rw [dif_pos zero] at unpacked
        cases unpacked
      · rw [dif_neg zero] at unpacked
        cases unpacked
        exact Nat.lt_trans (BitVec.isLt _) (by decide)
    · -- A normal double has the implied bit as well.
      rw [if_neg bottom] at unpacked
      cases unpacked
      exact BitVec.isLt _

/-- A double with a moderate exponent that is taken once is finite. -/
theorem isFinite_mul_one {model : Float.Model} (within : Within 105 model.unpack) :
    (model * Float.Model.ofBits 0x3FF0000000000000).isFinite = true := by
  have one : (Float.Model.ofBits 0x3FF0000000000000).unpack =
    .finite .positive (2 ^ 52) (-52) (by decide) := by rfl
  show (pack (UnpackedFloat.mul .binary64 model.unpack _)).isFinite = true
  rw [one]
  -- The product of two mantissas is twice as long, and is rounded like any other.
  cases unpacked : model.unpack with
  | zero sign => cases sign <;> rfl
  | finite sign mantissa exponent positive =>
    have small := log2_lt_of_unpack unpacked
    have low : exponent ≤ 105 := by
      rw [unpacked] at within
      exact within
    have room : (mantissa <<< 52).log2 < 105 := log2_shiftLeft_lt positive (by omega)
    rw [Nat.shiftLeft_eq] at room
    exact isFinite_round room (by omega)
  | infinity sign =>
    rw [unpacked] at within
    cases within
  | notANumber =>
    rw [unpacked] at within
    cases within

/-- The double of a whole number of 64 bits is finite. -/
theorem isFinite_ofScientific {digits : Nat} (small : digits < 0x10000000000000000) :
    (Float.ofScientific digits false 0).isFinite = true := by
  -- Up to 53 bits a number is a double itself, and beyond it is rounded.
  have log : ∀ bits, 0 < bits → digits < 2 ^ bits → digits.log2 < bits := by
    intro bits some less
    rcases Nat.eq_zero_or_pos digits with rfl | positive
    · exact some
    · exact (Nat.log2_lt (by omega)).mpr less
  by_cases fast : digits < 2 ^ 53
  · have whole : digits.toUInt64.toNat = digits := Nat.mod_eq_of_lt small
    have exactly : Float.ofScientific digits false 0 = .ofModel
        (Float.Model.ofUInt64 digits.toUInt64 * Float.Model.ofBits 0x3FF0000000000000) := by
      rw [Float.ofScientific, dif_pos ⟨fast, by decide⟩]
      rfl
    rw [exactly]
    exact isFinite_mul_one (within_unpack_ofUInt64 (whole.symm ▸ log 53 (by decide) fast))
  · -- A number that a mantissa has no room for is moved up before it is rounded.
    have positive : 0 < digits := by omega
    have rounded : Float.ofScientific digits false 0 = .ofModel (pack
        (UnpackedFloat.roundWithAccuracy .binary64 .positive (digits <<< 53 * 10 ^ 0) (-53 + 0)
          .exact)) := by
      rw [Float.ofScientific, dif_neg (fun both => fast both.1)]
      show Float.ofModel (pack (UnpackedFloat.ofScientific .binary64 digits 0)) = _
      have above : ¬ (0 : Int) < -((2 ^ Format.binary64.exponentBits : Int) + digits.log2) := by
        show ¬ (0 : Int) < -((2 ^ 11 : Int) + digits.log2)
        omega
      rw [UnpackedFloat.ofScientific, dif_neg (by omega), if_neg (by decide), if_neg above,
        if_pos (by decide)]
      rfl
    have long := log 64 (by decide) small
    have room : (digits <<< 53).log2 < 117 := log2_shiftLeft_lt positive (by omega)
    rw [rounded, Nat.pow_zero, Nat.mul_one]
    exact isFinite_round room (by decide)

/-- The opposite of a finite double is finite. -/
theorem isFinite_neg {x : Float} (finite : x.isFinite = true) : (-x).isFinite = true :=
  ((within_unpack finite).neg.unpack_pack (by decide)).isFinite

/-- The literal of an integer has neither a fraction nor an exponent, and 64 bits of digits. -/
theorem plain_of_integer? {number : Numeral} {value : Int}
    (integer : number.integer? = some value) : number.plain = true ∧
      number.digits < 0x10000000000000000 := by
  -- Both branches for integers test the digits against 64 bits.
  unfold Numeral.integer? at integer
  cases plain : number.plain with
  | false => simp [plain] at integer
  | true =>
    refine ⟨rfl, ?_⟩
    simp only [plain, Bool.not_true, Bool.false_eq_true, if_false] at integer
    split at integer
    · split at integer
      · cases integer
      · omega
    · split at integer
      · cases integer
      · omega

/-- Every number literal that is read stands for a finite double. -/
theorem isFinite_toFloat {text behind : List Char} {number : Numeral}
    (read : readNumeral text = .ok (number, behind)) : number.toFloat.isFinite = true := by
  -- The reader refuses a literal beyond all doubles, unless it is an integer of 64 bits.
  obtain ⟨integer | finite, _, negative, whole, fraction, power, same⟩ := parts_of_readNumeral read
  · -- The literal of an integer has no exponent, and its digits fit into 64 bits.
    obtain ⟨value, integer⟩ := Option.isSome_iff_exists.mp integer
    obtain ⟨plain, small⟩ := plain_of_integer? integer
    have exponent : number.exponent = 0 := by
      subst same
      cases fraction <;> cases power <;> first | rfl | cases plain
    have signed : ∀ magnitude : Float, magnitude.isFinite = true →
        (if number.negative then -magnitude else magnitude).isFinite = true := by
      intro magnitude finite
      split
      · exact isFinite_neg finite
      · exact finite
    unfold Numeral.toFloat
    rw [exponent]
    refine signed _ ?_
    by_cases zero : number.digits = 0
    · rw [if_pos zero]
      rfl
    · rw [if_neg zero]
      exact isFinite_ofScientific small
  · exact finite

end Literals

end Scoreboard
