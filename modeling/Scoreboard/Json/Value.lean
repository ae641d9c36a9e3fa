import Scoreboard.Json.Codec

/-! JSON values of any shape. -/

namespace Scoreboard

/-- A JSON value. -/
inductive Json
  | null
  | bool (value : Bool)
  | int (value : Int)
  | float (value : Float)
  | string (value : String)
  | list (elements : List Json)
  | object (members : List (String × Json))

/-- The value a number literal stands for. -/
def Json.ofNumeral (number : Numeral) : Json :=
  match number.integer? with
  | some value => .int value
  | none => .float number.toFloat

/-- A value of any shape. -/
def Json.read : Reader Json
  | room, text =>
    match dropBlanks text with
    | [] => .error .truncated
    | 'n' :: rest => (readWord "ull".toList rest).map fun rest => (.null, rest)
    | 't' :: rest => (readWord "rue".toList rest).map fun rest => (.bool true, rest)
    | 'f' :: rest => (readWord "alse".toList rest).map fun rest => (.bool false, rest)
    | '"' :: rest => (readString rest).map fun (value, rest) => (.string value, rest)
    | '[' :: rest =>
      match room with
      | 0 => .error .malformed
      | room + 1 =>
        (readElements (Json.read room) (rest.length + 1) true rest).map fun (elements, rest) =>
          (.list elements, rest)
    | '{' :: rest =>
      match room with
      | 0 => .error .malformed
      | room + 1 =>
        let member (members : List (String × Json)) (text : List Char) :
            Except DecodeError ((List (String × Json)) × List Char) := do
          let (name, text) ← readString text
          let (value, text) ← Json.read room (← readColon text)
          .ok ((name, value) :: members, text)
        (readObject member [] rest).map fun (members, rest) => (.object members.reverse, rest)
    | c :: rest =>
      if c = '-' ∨ c.isDigit then
        (readNumeral (c :: rest)).map fun (number, rest) => (Json.ofNumeral number, rest)
      else .error .malformed

mutual

/-- The text of a value. -/
def Json.write : Json → List Char
  | .null => "null".toList
  | .bool value => Codec.bool.write value
  | .int value => intDigits value
  | .float value => floatText value
  | .string value => quote value.toList
  | .list elements => '[' :: (commaSeparated (Json.writeElements elements) ++ [']'])
  | .object members => writeObject (Json.writeMembers members)

/-- The texts of the elements of a list. -/
def Json.writeElements : List Json → List (List Char)
  | [] => []
  | element :: elements => element.write :: Json.writeElements elements

/-- The texts of the members of an object. -/
def Json.writeMembers : List (String × Json) → List (List Char)
  | [] => []
  | (name, value) :: members => writeMember name value.write :: Json.writeMembers members

end

/-- Values of any shape. -/
def Codec.json : Codec Json where
  read := Json.read
  write := Json.write

end Scoreboard
