import Scoreboard.Json.Value

/-! JSON values laid out for people: every element and member on a line of its own. -/

namespace Scoreboard

/-- The start of another line at a depth of nesting. -/
def newLine (depth : Nat) : List Char :=
  '\n' :: List.replicate (2 * depth) ' '

mutual

/-- The text of a value at a depth of nesting, empty lists and objects staying closed. -/
def Json.layout (depth : Nat) : Json → List Char
  | .list [] => "[]".toList
  | .list elements =>
    '[' :: (commaSeparated (Json.layoutElements (depth + 1) elements) ++ newLine depth ++ [']'])
  | .object [] => ['{', '}']
  | .object members =>
    '{' :: (commaSeparated (Json.layoutMembers (depth + 1) members) ++ newLine depth ++ ['}'])
  | value => value.write

/-- The texts of the elements of a list, each on its line. -/
def Json.layoutElements (depth : Nat) : List Json → List (List Char)
  | [] => []
  | element :: elements =>
    (newLine depth ++ element.layout depth) :: Json.layoutElements depth elements

/-- The texts of the members of an object, each on its line. -/
def Json.layoutMembers (depth : Nat) : List (String × Json) → List (List Char)
  | [] => []
  | (name, value) :: members =>
    (newLine depth ++ quote name.toList ++ ':' :: ' ' :: value.layout depth)
      :: Json.layoutMembers depth members

end

/-- The text of a value that people are to read, a line break at its end. -/
def Json.page (value : Json) : String :=
  String.ofList (value.layout 0 ++ ['\n'])

end Scoreboard
