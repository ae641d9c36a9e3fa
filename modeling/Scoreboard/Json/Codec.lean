import Scoreboard.Decimal.Shortest
import Scoreboard.Json.Skip

/-! Codecs: how the values of a type are read from JSON text and written to it. -/

namespace Scoreboard

/-- Reads one value from a text, told how many levels of lists and objects it may still open. -/
abbrev Reader (α : Type) := Nat → List Char → Except DecodeError (α × List Char)

/-- A reader and a writer for the same values. -/
structure Codec (α : Type) where
  read : Reader α
  write : α → List Char

/-- How many levels of lists and objects a document may open. -/
def nestingLimit : Nat := 127

/-- The value a whole text holds, with nothing but blanks behind it. -/
def Codec.decode {α : Type} (codec : Codec α) (text : List Char) : Except DecodeError α := do
  let (value, rest) ← codec.read nestingLimit text
  if dropBlanks rest = [] then .ok value else .error .malformed

/-- The value a whole text holds. -/
def Codec.ofText {α : Type} (codec : Codec α) (text : String) : Except DecodeError α :=
  codec.decode text.toList

/-- The text a value is written as. -/
def Codec.toText {α : Type} (codec : Codec α) (value : α) : String :=
  String.ofList (codec.write value)

/-- The number literal the text starts with, behind blanks. -/
def readNumber (text : List Char) : Except DecodeError (Numeral × List Char) :=
  match dropBlanks text with
  | [] => .error .truncated
  | c :: rest =>
    if c = '-' ∨ c.isDigit then readNumeral (c :: rest) else .error (kindProblem (c :: rest))

/-- A whole number within bounds. -/
def readWithin (low high : Int) (text : List Char) : Except DecodeError (Int × List Char) := do
  let (number, text) ← readNumber text
  match number.integer? with
  | none => .error .wrongKind
  | some value => if low ≤ value ∧ value ≤ high then .ok (value, text) else .error .outOfRange

/-- Whole numbers of 64 bits with a sign. -/
def Codec.int64 : Codec Int64 where
  read _ text := (readWithin (-0x8000000000000000) 0x7FFFFFFFFFFFFFFF text).map fun (value, rest) =>
    (Int64.ofInt value, rest)
  write value := intDigits value.toInt

/-- Whole numbers of 64 bits without a sign. -/
def Codec.uint64 : Codec UInt64 where
  read _ text := (readWithin 0 0xFFFFFFFFFFFFFFFF text).map fun (value, rest) =>
    (UInt64.ofNat value.toNat, rest)
  write value := natDigits value.toNat

/-- Whole numbers of 32 bits without a sign. -/
def Codec.uint32 : Codec UInt32 where
  read _ text := (readWithin 0 0xFFFFFFFF text).map fun (value, rest) =>
    (UInt32.ofNat value.toNat, rest)
  write value := natDigits value.toNat

/-- Doubles, which any number literal may stand for. -/
def Codec.float : Codec Float where
  read _ text := (readNumber text).map fun (number, rest) => (number.toFloat, rest)
  write := floatText

/-- Truth values. -/
def Codec.bool : Codec Bool where
  read _ text :=
    match dropBlanks text with
    | [] => .error .truncated
    | 't' :: rest => (readWord "rue".toList rest).map fun rest => (true, rest)
    | 'f' :: rest => (readWord "alse".toList rest).map fun rest => (false, rest)
    | text => .error (kindProblem text)
  write value := if value then "true".toList else "false".toList

/-- The hexadecimal digit of a value below sixteen. -/
def hexDigit (value : Nat) : Char :=
  "0123456789abcdef".toList.getD value '0'

/-- One character as it stands between quotes. -/
def escapeChar (c : Char) : List Char :=
  -- Quotes, backslashes and controls are escaped, with a letter where one exists.
  match c with
  | '"' => ['\\', '"']
  | '\\' => ['\\', '\\']
  | '\x08' => ['\\', 'b']
  | '\t' => ['\\', 't']
  | '\n' => ['\\', 'n']
  | '\x0c' => ['\\', 'f']
  | '\r' => ['\\', 'r']
  | c =>
    if c < ' ' then ['\\', 'u', '0', '0', hexDigit (c.toNat / 16), hexDigit (c.toNat % 16)]
    else [c]

/-- A text between quotes. -/
def quote (text : List Char) : List Char :=
  '"' :: (text.flatMap escapeChar ++ ['"'])

/-- Texts. -/
def Codec.string : Codec String where
  read _ text :=
    match dropBlanks text with
    | [] => .error .truncated
    | '"' :: rest => readString rest
    | text => .error (kindProblem text)
  write value := quote value.toList

/-- Values that may be `null` instead. -/
def Codec.optional {α : Type} (codec : Codec α) : Codec (Option α) where
  read room text :=
    match dropBlanks text with
    | [] => .error .truncated
    | 'n' :: rest => (readWord "ull".toList rest).map fun rest => (none, rest)
    | text => (codec.read room text).map fun (value, rest) => (some value, rest)
  write
    | none => "null".toList
    | some value => codec.write value

/-- Whether a list goes on: the text at its next element, or none at its closing bracket. -/
def nextElement (first : Bool) (text : List Char) : Except DecodeError (Option (List Char)) :=
  -- Behind an element comes a comma or the end, and behind a comma comes an element.
  match dropBlanks text with
  | [] => .error .truncated
  | ']' :: _ => .ok none
  | c :: rest =>
    if first then .ok (some (c :: rest))
    else if c = ',' then
      match dropBlanks rest with
      | [] => .error .truncated
      | ']' :: _ => .error .malformed
      | rest => .ok (some rest)
    else .error .malformed

/-- The text behind a list that has to close here. -/
def closeList (text : List Char) : Except DecodeError (List Char) :=
  match dropBlanks text with
  | [] => .error .truncated
  | ']' :: rest => .ok rest
  | _ => .error .malformed

/-- The elements of a list up to its closing bracket, at most as many as there are turns. -/
def readElements {α : Type} (element : List Char → Except DecodeError (α × List Char)) :
    Nat → Bool → List Char → Except DecodeError ((List α) × List Char)
  | 0, _, _ => .error .truncated
  | turns + 1, first, text => do
    match ← nextElement first text with
    | none => .ok ([], ← closeList text)
    | some text =>
      let (value, text) ← element text
      let (values, text) ← readElements element turns false text
      .ok (value :: values, text)

/-- What stands between the written elements of a list or the members of an object. -/
def commaSeparated (parts : List (List Char)) : List Char :=
  [','].intercalate parts

/-- Lists of values. -/
def Codec.list {α : Type} (codec : Codec α) : Codec (List α) where
  read room text :=
    match dropBlanks text with
    | [] => .error .truncated
    | '[' :: rest =>
      match room with
      | 0 => .error .malformed
      | room + 1 => readElements (codec.read room) (rest.length + 1) true rest
    | text => .error (kindProblem text)
  write values := '[' :: (commaSeparated (values.map codec.write) ++ [']'])

/-- The text behind the colon of a member. -/
def readColon (text : List Char) : Except DecodeError (List Char) :=
  match dropBlanks text with
  | [] => .error .truncated
  | ':' :: rest => .ok rest
  | _ => .error .malformed

/-- The members of an object up to its closing brace, the text standing behind the quote that opens a name. -/
def readMembers {σ : Type} (member : σ → List Char → Except DecodeError (σ × List Char)) :
    Nat → σ → List Char → Except DecodeError (σ × List Char)
  | 0, _, _ => .error .truncated
  | turns + 1, state, text => do
    let (state, text) ← member state text
    match dropBlanks text with
    | [] => .error .truncated
    | '}' :: rest => .ok (state, rest)
    | ',' :: rest =>
      match dropBlanks rest with
      | [] => .error .truncated
      | '"' :: rest => readMembers member turns state rest
      | _ => .error .malformed
    | _ => .error .malformed

/-- An object read member by member, the text standing behind its opening brace. -/
def readObject {σ : Type} (member : σ → List Char → Except DecodeError (σ × List Char)) (start : σ)
    (text : List Char) : Except DecodeError (σ × List Char) :=
  match dropBlanks text with
  | [] => .error .truncated
  | '}' :: rest => .ok (start, rest)
  | '"' :: rest => readMembers member (rest.length + 1) start rest
  | _ => .error .malformed

/-- A member as it is written: its name, a colon and its value. -/
def writeMember (name : String) (value : List Char) : List Char :=
  quote name.toList ++ ':' :: value

/-- An object made of written members. -/
def writeObject (members : List (List Char)) : List Char :=
  '{' :: (commaSeparated members ++ ['}'])

end Scoreboard
