import Scoreboard.Text.Digits

/-! Tables of characters: runs of them in base sixteen, each with the numbers the table holds for it. -/

namespace Scoreboard

/-- Evenly spaced characters with the numbers a table holds for them. -/
structure CharRun where
  first : Nat
  last : Nat
  step : Nat
  values : List Nat
deriving DecidableEq, Repr

/-- The number a row of digits in base sixteen spells. -/
def hexNumber (digits : List Char) : Nat :=
  digits.foldl (fun value digit => 16 * value + (hexValue? digit).getD 0) 0

/-- The run a word of a table stands for, as in `41-5a=61` or, for every second one, `100~12e`. -/
def readRun (word : List Char) : CharRun :=
  -- The characters come in front of the equals sign, the numbers for them behind it.
  let (range, values) := match splitText '=' word with
    | [range, values] => (range, (splitText '+' values).map hexNumber)
    | _ => (word, [])
  match splitText '-' range, splitText '~' range with
  | [first, last], _ => ⟨hexNumber first, hexNumber last, 1, values⟩
  | _, [first, last] => ⟨hexNumber first, hexNumber last, 2, values⟩
  | _, _ => ⟨hexNumber range, hexNumber range, 1, values⟩

/-- A table from its words, which blanks and line breaks keep apart. -/
def charTable (text : String) : List CharRun :=
  let words := splitText ' ' (text.toList.map fun c => if c = '
' then ' ' else c)
  (words.filter (!·.isEmpty)).map readRun

/-- Whether a character lies in a run. -/
def CharRun.contains (run : CharRun) (c : Char) : Bool :=
  run.first ≤ c.toNat && c.toNat ≤ run.last && (c.toNat - run.first) % run.step == 0

/-- Whether a table has a run with a character. -/
def inTable (table : List CharRun) (c : Char) : Bool :=
  table.any (·.contains c)

end Scoreboard
