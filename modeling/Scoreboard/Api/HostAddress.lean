import Scoreboard.Text.Digits

/-! The addresses that are numbers: four octets with points, and eight groups with colons. -/

namespace Scoreboard

/-- The number a part of a dotted address spells in base eight, ten or sixteen. -/
def addressPart? (part : List Char) : Option Nat :=
  let spell (base : Nat) (digits : List Char) : Option Nat :=
    digits.foldlM (fun value c => do
      let digit ← hexValue? c
      if digit < base then some (base * value + digit) else none) 0
  match part with
  | [] => none
  | '0' :: 'x' :: digits | '0' :: 'X' :: digits => spell 16 digits
  | '0' :: digit :: digits => spell 8 (digit :: digits)
  | digits => spell 10 digits

/-- The parts of a dotted name, a single point at the end aside. -/
def dottedParts (host : List Char) : List (List Char) :=
  let parts := splitText '.' host
  if 1 < parts.length ∧ parts.getLast? = some [] then parts.dropLast else parts

/-- Whether the last part of a dotted name is a number, which makes the name an address. -/
def endsInNumber (host : List Char) : Bool :=
  match (dottedParts host).getLast? with
  | none | some [] => false
  | some last => last.all Char.isDigit || (addressPart? last).isSome

/-- Whether a dotted name is an address of four octets, the last part standing for all that are missing. -/
def validAddress (host : List Char) : Bool :=
  match (dottedParts host).mapM addressPart? with
  | none => false
  | some numbers =>
    numbers.length ≤ 4 && numbers.dropLast.all (· ≤ 255)
      && (numbers.getLastD 0) < Nat.pow 256 (5 - numbers.length)

/-- Whether a text is a group of up to four hexadecimal digits. -/
def isHexGroup (group : List Char) : Bool :=
  1 ≤ group.length && group.length ≤ 4 && group.all fun c => (hexValue? c).isSome

/-- Whether a text is four octets in base ten without leading zeros. -/
def isDottedOctets (group : List Char) : Bool :=
  let parts := splitText '.' group
  parts.length == 4 && parts.all fun part =>
    !part.isEmpty && part.all Char.isDigit && (part.length == 1 || part.head? != some '0')
      && part.length ≤ 3 && digitsValue part ≤ 255

/-- How many sixteen-bit units the groups of an address stand for, none when one is broken. -/
def groupUnits? : List (List Char) → Option Nat
  | [] => some 0
  | [last] => if isHexGroup last then some 1 else if isDottedOctets last then some 2 else none
  | group :: rest => if isHexGroup group then (groupUnits? rest).map (· + 1) else none

/-- The groups between single colons, none at all in an empty text. -/
def colonGroups (text : List Char) : List (List Char) :=
  if text.isEmpty then [] else splitText ':' text

/-- The parts of a text around its first double colon. -/
def splitDoubleColon : List Char → Option (List Char × List Char)
  | ':' :: ':' :: rest => some ([], rest)
  | c :: rest => (splitDoubleColon rest).map fun (before, behind) => (c :: before, behind)
  | [] => none

/-- Whether a text is an address of eight units, of which a double colon may leave some out. -/
def validLongAddress (text : List Char) : Bool :=
  match splitDoubleColon text with
  | none => groupUnits? (colonGroups text) == some 8
  | some (before, behind) =>
    (colonGroups before).all isHexGroup &&
      match groupUnits? (colonGroups behind) with
      | none => false
      | some units => (colonGroups before).length + units ≤ 7

/-- Whether a host is a long address between square brackets. -/
def validBracketed (host : List Char) : Bool :=
  host.getLast? == some ']' && validLongAddress host.tail.dropLast

end Scoreboard
