import Scoreboard.Text.Digits

/-! Texts spelled in ASCII alone: plain characters, then numbers that say where the others go. -/

namespace Scoreboard

/-- How far the reading of a spelled text has come. -/
structure Punycode where
  /-- The text with the characters placed so far. -/
  text : List Char
  /-- The number of the character placed last. -/
  point : Nat
  /-- Where the next character goes, counted on past the end of the text for later characters. -/
  place : Nat
  /-- What the place was when the number at hand began. -/
  start : Nat
  /-- What the next digit of the number at hand counts. -/
  weight : Nat
  /-- How many digits of the number at hand are read. -/
  position : Nat
  /-- Where the digits that end a number begin to grow. -/
  bias : Nat
deriving DecidableEq, Repr

/-- The value of a digit in base thirty-six: letters, then figures. -/
def letterDigit? (c : Char) : Option Nat :=
  if 'a' ≤ c ∧ c ≤ 'z' then some (c.toNat - 'a'.toNat)
  else if 'A' ≤ c ∧ c ≤ 'Z' then some (c.toNat - 'A'.toNat)
  else if c.isDigit then some (digitValue c + 26)
  else none

/-- The largest number that places are counted with. -/
def largestPlace : Nat := 0xFFFFFFFF

/-- The least digit at a position that does not end a number. -/
def Punycode.threshold (state : Punycode) : Nat :=
  min 26 (max 1 (36 * (state.position + 1) - state.bias))

/-- The bias that fits numbers of some size. -/
def biasFor (size : Nat) : Nat :=
  if 455 < size then 36 + biasFor (size / 35) else 36 * size / (size + 38)
termination_by size
decreasing_by omega

/-- The state after the last digit of a number, none when there is no such character. -/
def Punycode.place? (state : Punycode) : Option Punycode :=
  -- Counting past the end of the text begins again at its start with the next character.
  let slots := state.text.length + 1
  let point := state.point + state.place / slots
  let place := state.place % slots
  let size := (state.place - state.start) / if state.start = 0 then 700 else 2
  if point.isValidChar then
    some {
      text := state.text.insertIdx place (.ofNat point)
      point
      place := place + 1
      start := place + 1
      weight := 1
      position := 0
      bias := biasFor (size + size / slots) }
  else none

/-- The state after one more digit, none when it is no digit or a number is too large. -/
def Punycode.read? (state : Punycode) (c : Char) : Option Punycode :=
  (letterDigit? c).bind fun digit =>
    let place := state.place + digit * state.weight
    let weight := state.weight * (36 - state.threshold)
    if largestPlace < place then none
    else if digit < state.threshold then { state with place }.place?
    else if largestPlace < weight then none
    else some { state with place, weight, position := state.position + 1 }

/-- The text a spelling stands for, none when it stands for none. -/
def punycodeText? (spelling : List Char) : Option (List Char) := do
  -- The plain characters end at the last hyphen, and there are some if there is one.
  let digits := (spelling.reverse.takeWhile (· != '-')).reverse
  let plain := spelling.take (spelling.length - digits.length - 1)
  if plain.isEmpty ∧ digits.length < spelling.length then none
  else
    let start : Punycode := ⟨plain, 128, 0, 0, 1, 0, 72⟩
    let state ← digits.foldlM Punycode.read? start
    -- The last number has to be complete.
    if state.position = 0 then some state.text else none

end Scoreboard
