import Scoreboard.Decimal.Numeral
import Scoreboard.Json.DecodeError
import Scoreboard.Text.Blank

/-! The smallest parts of a JSON text: fixed words, number literals and strings. -/

namespace Scoreboard

/-- The text behind a fixed word. -/
def readWord : List Char → List Char → Except DecodeError (List Char)
  | [], text => .ok text
  | _ :: _, [] => .error .truncated
  | letter :: word, c :: text => if letter = c then readWord word text else .error .malformed

/-- A nonempty row of digits. -/
def readDigits (text : List Char) : Except DecodeError ((List Char) × List Char) :=
  match text.takeWhile Char.isDigit, text with
  | [], [] => .error .truncated
  | [], _ :: _ => .error .malformed
  | digits, _ => .ok (digits, text.dropWhile Char.isDigit)

/-- The digits in front of the point, a zero standing alone. -/
def readWhole (text : List Char) : Except DecodeError ((List Char) × List Char) :=
  match readDigits text with
  | .ok ('0' :: _ :: _, _) => .error .malformed
  | result => result

/-- The digits behind the point, none when there is no point. -/
def readFraction : List Char → Except DecodeError ((Option (List Char)) × List Char)
  | '.' :: text => (readDigits text).map fun (digits, rest) => (some digits, rest)
  | text => .ok (none, text)

/-- The power of ten behind the mark, none when there is no mark. -/
def readExponent : List Char → Except DecodeError ((Option Int) × List Char)
  | mark :: text =>
    if mark = 'e' ∨ mark = 'E' then
      -- One sign may stand between the mark and the digits.
      let (negative, text) := match text with
        | '-' :: rest => (true, rest)
        | '+' :: rest => (false, rest)
        | _ => (false, text)
      (readDigits text).map fun (digits, rest) =>
        let power : Int := digitsValue digits
        (some (if negative then -power else power), rest)
    else .ok (none, mark :: text)
  | [] => .ok (none, [])

/-- The literal made of the parts of a number. -/
def Numeral.ofParts (negative : Bool) (whole : List Char) (fraction : Option (List Char))
    (power : Option Int) : Numeral where
  negative := negative
  digits := digitsValue (whole ++ fraction.getD [])
  exponent := power.getD 0 - (fraction.getD []).length
  plain := fraction.isNone && power.isNone

/-- A number literal, refused as malformed when no double is large enough for it. -/
def readNumeral (text : List Char) : Except DecodeError (Numeral × List Char) := do
  -- The sign, the whole part, the fraction and the exponent follow one another.
  let (negative, text) := match text with
    | '-' :: rest => (true, rest)
    | _ => (false, text)
  let (whole, text) ← readWhole text
  let (fraction, text) ← readFraction text
  let (power, text) ← readExponent text
  let number := Numeral.ofParts negative whole fraction power
  if number.integer?.isNone && !number.toFloat.isFinite then .error .malformed
  else .ok (number, text)

/-- The character a one-letter escape stands for. -/
def unescape? : Char → Option Char
  | '"' => some '"'
  | '\\' => some '\\'
  | '/' => some '/'
  | 'b' => some '\x08'
  | 'f' => some '\x0c'
  | 'n' => some '\n'
  | 'r' => some '\r'
  | 't' => some '\t'
  | _ => none

/-- Whether a 16-bit unit opens a surrogate pair. -/
def isLeadingHalf (unit : Nat) : Bool :=
  0xD800 ≤ unit && unit ≤ 0xDBFF

/-- Whether a 16-bit unit closes a surrogate pair. -/
def isTrailingHalf (unit : Nat) : Bool :=
  0xDC00 ≤ unit && unit ≤ 0xDFFF

/-- The character two surrogate halves stand for together. -/
def joinHalves (leading trailing : Nat) : Char :=
  Char.ofNat (0x10000 + (leading - 0xD800) * 0x400 + (trailing - 0xDC00))

/-- The problem with an escape whose next hexadecimal digit is missing. -/
def hexProblem (owed : Nat) (text : List Char) : DecodeError :=
  -- An escape with too few octets left for its digits counts as cut off.
  if text.foldl (fun octets c => octets + c.utf8Size) 0 < owed then .truncated else .malformed

/-- Where the reader of a string stands. -/
inductive StringMode
  /-- Between characters. -/
  | plain
  /-- Behind a backslash. -/
  | escape
  /-- Inside a hexadecimal escape that owes digits, perhaps behind a leading half. -/
  | hex (leading : Option Nat) (owed unit : Nat)
  /-- Behind a leading half, which wants a backslash. -/
  | half (leading : Nat)
  /-- Behind a leading half and a backslash, which want a hexadecimal escape. -/
  | halfEscape (leading : Nat)

/-- The characters of a string up to its closing quote. -/
def readChars : StringMode → List Char → Except DecodeError ((List Char) × List Char)
  | _, [] => .error .truncated
  | .plain, c :: text =>
    if c = '"' then .ok ([], text)
    else if c = '\\' then readChars .escape text
    else if c < ' ' then .error .malformed
    else (readChars .plain text).map fun (chars, rest) => (c :: chars, rest)
  | .escape, c :: text =>
    if c = 'u' then readChars (.hex none 4 0) text
    else match unescape? c with
      | none => .error .malformed
      | some d => (readChars .plain text).map fun (chars, rest) => (d :: chars, rest)
  | .hex leading owed unit, c :: text =>
    match hexValue? c with
    | none => .error (hexProblem owed (c :: text))
    | some value =>
      let unit := 16 * unit + value
      if 1 < owed then readChars (.hex leading (owed - 1) unit) text
      else match leading with
        | some high =>
          if isTrailingHalf unit then
            (readChars .plain text).map fun (chars, rest) => (joinHalves high unit :: chars, rest)
          else .error .malformed
        | none =>
          if isTrailingHalf unit then .error .malformed
          else if isLeadingHalf unit then readChars (.half unit) text
          else (readChars .plain text).map fun (chars, rest) => (Char.ofNat unit :: chars, rest)
  | .half leading, c :: text =>
    if c = '\\' then readChars (.halfEscape leading) text else .error .malformed
  | .halfEscape leading, c :: text =>
    if c = 'u' then readChars (.hex (some leading) 4 0) text else .error .malformed

/-- The value of a string, the text standing behind its opening quote. -/
def readString (text : List Char) : Except DecodeError (String × List Char) :=
  (readChars .plain text).map fun (chars, rest) => (String.ofList chars, rest)

/-- The problem with a value that is not of the kind wanted, the text standing at its start. -/
def kindProblem (text : List Char) : DecodeError :=
  -- Words, numbers and strings have to be well formed before their kind is the matter.
  let behind {α : Type} : Except DecodeError α → DecodeError
    | .error problem => problem
    | .ok _ => .wrongKind
  match text with
  | [] => .truncated
  | 'n' :: rest => behind (readWord "ull".toList rest)
  | 't' :: rest => behind (readWord "rue".toList rest)
  | 'f' :: rest => behind (readWord "alse".toList rest)
  | '"' :: rest => behind (readString rest)
  | '[' :: _ | '{' :: _ => .wrongKind
  | c :: _ => if c = '-' ∨ c.isDigit then behind (readNumeral text) else .malformed

end Scoreboard
