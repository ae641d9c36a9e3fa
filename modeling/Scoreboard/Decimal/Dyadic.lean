/-! Finite doubles as whole multiples of powers of two. -/

namespace Scoreboard

/-- A positive finite double as `mantissa * 2 ^ exponent`. -/
structure Dyadic where
  mantissa : Nat
  exponent : Int
  /-- Whether the double below is only half as far away as the one above. -/
  narrowBelow : Bool

/-- The value behind the low 63 bits of a finite double. -/
def Dyadic.ofBits (bits : UInt64) : Dyadic :=
  -- Eleven bits of exponent above fifty-two of fraction, the implied one missing at the bottom.
  let exponent := ((bits >>> 52) &&& 0x7FF).toNat
  let fraction := (bits &&& 0xFFFFFFFFFFFFF).toNat
  if exponent = 0 then ⟨fraction, -1074, false⟩
  else ⟨0x10000000000000 + fraction, exponent - 1075, fraction = 0 && 1 < exponent⟩

/-- The value of a double without its sign. -/
def Dyadic.ofFloat (x : Float) : Dyadic :=
  Dyadic.ofBits (x.toBits &&& 0x7FFFFFFFFFFFFFFF)

/-- The whole number nearest to a dyadic taken so many times, a half going to the even neighbour. -/
def Dyadic.roundTimes (x : Dyadic) (times : Nat) : Nat :=
  -- Twice the remainder against the divisor tells on which side of a half the value lies.
  let value := x.mantissa * times * Nat.pow 2 x.exponent.toNat
  let divisor := Nat.pow 2 (-x.exponent).toNat
  let below := value / divisor
  match compare (2 * (value % divisor)) divisor with
  | .lt => below
  | .gt => below + 1
  | .eq => below + below % 2

end Scoreboard
