/-! Whole numbers as decimal text: the digits a number is written with, and the number digits spell. -/

namespace Scoreboard

/-- The value of one decimal digit. -/
def digitValue (digit : Char) : Nat :=
  digit.toNat - '0'.toNat

/-- The value of one hexadecimal digit. -/
def hexValue? (c : Char) : Option Nat :=
  if '0' ≤ c ∧ c ≤ '9' then some (c.toNat - '0'.toNat)
  else if 'a' ≤ c ∧ c ≤ 'f' then some (c.toNat - 'a'.toNat + 10)
  else if 'A' ≤ c ∧ c ≤ 'F' then some (c.toNat - 'A'.toNat + 10)
  else none

/-- The number a row of decimal digits spells, the empty row spelling zero. -/
def digitsValue (digits : List Char) : Nat :=
  digits.foldl (fun value digit => 10 * value + digitValue digit) 0

/-- The decimal digits of a natural number, without leading zeros. -/
def natDigits (value : Nat) : List Char :=
  Nat.toDigits 10 value

/-- The decimal text of an integer, a minus sign in front of a negative one. -/
def intDigits : Int → List Char
  | .ofNat value => natDigits value
  | .negSucc value => '-' :: natDigits (value + 1)

/-- Zeros in front of a text that is shorter than a width. -/
def padZeros (width : Nat) (digits : List Char) : List Char :=
  List.replicate (width - digits.length) '0' ++ digits

/-- The integer a signed decimal text spells: an optional sign, then one digit or more. -/
def signedValue? (text : List Char) : Option Int :=
  -- The sign comes off first, and what is left has to be a nonempty row of digits.
  let negative := text.head? == some '-'
  let digits := if negative || text.head? == some '+' then text.tail else text
  if digits.isEmpty || !digits.all Char.isDigit then none
  else if negative then some (-(digitsValue digits : Int))
  else some (digitsValue digits : Int)

/-- The 64-bit integer a signed decimal text spells, none when the value does not fit. -/
def int64Value? (text : List Char) : Option Int64 :=
  (signedValue? text).bind fun value =>
    if -0x8000000000000000 ≤ value ∧ value ≤ 0x7FFFFFFFFFFFFFFF then some (Int64.ofInt value)
    else none

/-- The 16-bit natural number a decimal text spells, behind an optional plus sign. -/
def uint16Value? (text : List Char) : Option UInt16 :=
  -- A minus sign is refused even in front of zero.
  if text.head? == some '-' then none
  else (signedValue? text).bind fun value =>
    if value ≤ 0xFFFF then some (UInt16.ofNat value.toNat) else none

/-- The pieces of a text between the separators in it. -/
def splitText (separator : Char) : List Char → List (List Char)
  | [] => [[]]
  | c :: text =>
    -- A separator starts a new piece, any other character joins the piece that follows it.
    if c = separator then [] :: splitText separator text
    else match splitText separator text with
      | [] => [[c]]
      | piece :: pieces => (c :: piece) :: pieces

end Scoreboard
