/-! Blank characters: those between the parts of a JSON text, and those trimmed off a header. -/

namespace Scoreboard

/-- Whether a character may stand between two parts of a JSON text. -/
def isJsonBlank (c : Char) : Bool :=
  c == ' ' || c == '\n' || c == '\t' || c == '\r'

/-- The text from its first character that is not blank. -/
def dropBlanks (text : List Char) : List Char :=
  text.dropWhile isJsonBlank

/-- Whether a character is white space in any script. -/
def isWhiteSpace (c : Char) : Bool :=
  -- Five controls and the blank, then the single points and the one run beyond ASCII.
  (0x09 ≤ c.toNat && c.toNat ≤ 0x0D) || c == ' '
    || c.toNat == 0x85 || c.toNat == 0xA0 || c.toNat == 0x1680
    || (0x2000 ≤ c.toNat && c.toNat ≤ 0x200A)
    || c.toNat == 0x2028 || c.toNat == 0x2029 || c.toNat == 0x202F
    || c.toNat == 0x205F || c.toNat == 0x3000

/-- A text without the characters of a class at its end. -/
def dropTrailing (drops : Char → Bool) (text : List Char) : List Char :=
  (text.reverse.dropWhile drops).reverse

/-- A text without the characters of a class at either end. -/
def trimBoth (drops : Char → Bool) (text : List Char) : List Char :=
  dropTrailing drops (text.dropWhile drops)

end Scoreboard
