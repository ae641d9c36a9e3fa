import Scoreboard.Text.Digits

/-! A number as a document spells it, before it is known whether a whole number or a double is wanted. -/

namespace Scoreboard

/-- A decimal number literal: `± digits * 10 ^ exponent`. -/
structure Numeral where
  negative : Bool
  digits : Nat
  exponent : Int
  /-- Whether the literal has neither a fraction nor an exponent. -/
  plain : Bool
deriving DecidableEq, Repr

/-- The integer a literal stands for, none when it has to be a double. -/
def Numeral.integer? (number : Numeral) : Option Int :=
  -- Negative zero and everything beyond 64 bits is a double even without a fraction.
  if !number.plain then none
  else if number.negative then
    if number.digits = 0 ∨ 0x8000000000000000 < number.digits then none
    else some (-(number.digits : Int))
  else if 0xFFFFFFFFFFFFFFFF < number.digits then none
  else some number.digits

/--
The double nearest to a literal, infinite beyond the largest one.

The documents are read with best-effort precision, which scales the digits by powers of ten in doubles
and may miss the nearest one by the last bit where a literal has more than 15 digits or its power is
beyond 22. That difference is left out here: where a proof needs that a printed double is read back,
it asks for this as a hypothesis.
-/
def Numeral.toFloat (number : Numeral) : Float :=
  -- Exponents far outside the range of doubles are settled without computing the power.
  let magnitude : Float :=
    if number.digits = 0 then 0.0
    else if 400 < number.exponent then 1.0 / 0.0
    else if 0 ≤ number.exponent then
      Float.ofScientific number.digits false number.exponent.toNat
    else if 400 + number.digits.log2 < number.exponent.natAbs then 0.0
    else Float.ofScientific number.digits true number.exponent.natAbs
  if number.negative then -magnitude else magnitude

end Scoreboard
