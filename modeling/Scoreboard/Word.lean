/-! Signed words of sixty-four bits, whose sums and differences fail when they leave the range. -/

namespace Scoreboard

/-- An integer that a signed word of sixty-four bits holds: from minus the 63rd power of two on. -/
def Fits (value : Int) : Prop :=
  -0x8000000000000000 ≤ value ∧ value < 0x8000000000000000

instance (value : Int) : Decidable (Fits value) :=
  inferInstanceAs (Decidable (_ ∧ _))

/-- The word of an integer, none when no word holds it. -/
def wordOf? (value : Int) : Option Int64 :=
  if Fits value then some (Int64.ofInt value) else none

/-- The sum of two words, none when no word holds it. -/
def sum? (one other : Int64) : Option Int64 :=
  wordOf? (one.toInt + other.toInt)

/-- The difference of two words, none when no word holds it. -/
def difference? (one other : Int64) : Option Int64 :=
  wordOf? (one.toInt - other.toInt)

end Scoreboard
