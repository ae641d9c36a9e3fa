import Scoreboard.Decimal.Dyadic
import Scoreboard.Text.Digits

/-! The shortest decimal that reads back as a given double, and its layout in a document. -/

namespace Scoreboard

/-- A decimal `digits * 10 ^ exponent`. -/
structure Decimal where
  digits : Nat
  exponent : Int
deriving DecidableEq, Repr

/-- The two naturals whose ratio is one unit of the dyadic's mantissa measured in `10 ^ grid`. -/
def Dyadic.unit (x : Dyadic) (grid : Int) : Nat × Nat :=
  (Nat.pow 2 x.exponent.toNat * Nat.pow 10 (-grid).toNat,
    Nat.pow 2 (-x.exponent).toNat * Nat.pow 10 grid.toNat)

/-- Whether `digits * 10 ^ grid` lies among the reals that round to the dyadic. -/
def Dyadic.readsBack (x : Dyadic) (grid : Int) (digits : Nat) : Bool :=
  -- The interval reaches half way to both neighbours, ends included when the mantissa is even.
  let (numer, denom) := x.unit grid
  let point := 4 * digits * denom
  let low := (4 * x.mantissa - (if x.narrowBelow then 1 else 2)) * numer
  let high := (4 * x.mantissa + 2) * numer
  if x.mantissa % 2 = 0 then low ≤ point && point ≤ high else low < point && point < high

/-- The point of a decimal grid that reads back as the dyadic, the nearer one when two do. -/
def Dyadic.onGrid? (x : Dyadic) (grid : Int) : Option Nat :=
  -- Only the two neighbours of the value on the grid can be nearest; a tie goes to the even one.
  let (numer, denom) := x.unit grid
  let below := x.mantissa * numer / denom
  match x.readsBack grid below, x.readsBack grid (below + 1) with
  | false, false => none
  | true, false => some below
  | false, true => some (below + 1)
  | true, true =>
    match compare (2 * x.mantissa * numer) ((2 * below + 1) * denom) with
    | .lt => some below
    | .gt => some (below + 1)
    | .eq => some (below + below % 2)

/-- The first hit on ever finer grids, the exact value when none of them has one. -/
def Dyadic.search (x : Dyadic) : Nat → Int → Decimal
  | 0, _ =>
    ⟨x.mantissa * Nat.pow 2 x.exponent.toNat * Nat.pow 5 (-x.exponent).toNat, min x.exponent 0⟩
  | turns + 1, grid =>
    match x.onGrid? grid with
    | some digits => ⟨digits, grid⟩
    | none => x.search turns (grid - 1)

/-- The decimal of fewest digits that reads back as the dyadic. -/
def Dyadic.shortest (x : Dyadic) : Decimal :=
  -- The search starts on a grid coarser than the value, so the first hit has the fewest digits.
  let size : Int := x.mantissa.log2 + x.exponent
  x.search 24 (size * 30103 / 100000 + 2)

/-- A decimal laid out the way documents write numbers. -/
def Decimal.layout (value : Decimal) : List Char :=
  -- Positional from a hundred-thousandth up to below ten to the sixteenth, scientific elsewhere.
  let digits := natDigits value.digits
  let point : Int := digits.length + value.exponent
  if 0 ≤ value.exponent ∧ point ≤ 16 then
    digits ++ List.replicate value.exponent.toNat '0' ++ ['.', '0']
  else if 0 < point ∧ point ≤ 16 then
    digits.take point.toNat ++ '.' :: digits.drop point.toNat
  else if -5 < point ∧ point ≤ 0 then
    '0' :: '.' :: List.replicate (-point).toNat '0' ++ digits
  else
    let mantissa := match digits with
      | first :: second :: rest => first :: '.' :: second :: rest
      | _ => digits
    let sign := if 0 < point then '+' else '-'
    mantissa ++ 'e' :: sign :: natDigits (point - 1).natAbs

/-- The text of a double in a document, `null` for an infinity or a value that is no number. -/
def floatText (x : Float) : List Char :=
  -- The sign bit is written also in front of zero.
  if !x.isFinite then "null".toList
  else
    let magnitude := Dyadic.ofFloat x
    let body := if magnitude.mantissa = 0 then ['0', '.', '0'] else magnitude.shortest.layout
    if x.toBits >>> 63 = 0 then body else '-' :: body

end Scoreboard
