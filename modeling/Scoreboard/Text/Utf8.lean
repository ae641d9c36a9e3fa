/-! Texts as octets, octets behind percent signs, and octets that belong to no character. -/

namespace Scoreboard

/-- The text octets stand for, none when they are not well formed. -/
def utf8Text? (octets : List UInt8) : Option (List Char) :=
  (String.fromUTF8? ⟨octets.toArray⟩).map String.toList

/-- The octets of a text. -/
def utf8Octets (text : List Char) : List UInt8 :=
  (String.ofList text).toUTF8.toList

/-- How many octets a character has that starts with an octet. -/
def characterWidth (first : UInt8) : Nat :=
  if first < 0x80 then 1 else if first < 0xE0 then 2 else if first < 0xF0 then 3 else 4

/-- What stands in a JSON text for an octet that belongs to no character. -/
def strayOctet : List Char :=
  -- It breaks words, numbers and escapes, and in a string it spells halves of no character.
  "x\\udc00\\udc00".toList

/-- Octets as a JSON text, in which stray octets are refused except in a skipped string. -/
def jsonOctetText (octets : List UInt8) : List Char :=
  match octets with
  | [] => []
  | first :: rest =>
    match utf8Text? (first :: rest.take (characterWidth first - 1)) with
    | some [c] => c :: jsonOctetText (rest.drop (characterWidth first - 1))
    | _ => strayOctet ++ jsonOctetText rest
termination_by octets.length
decreasing_by
  · simp only [List.length_cons, List.length_drop]; omega
  · simp only [List.length_cons]; omega

/-- The value of an octet that is a hexadecimal digit. -/
def hexOctet? (octet : UInt8) : Option UInt8 :=
  if 48 ≤ octet ∧ octet ≤ 57 then some (octet - 48)
  else if 65 ≤ octet ∧ octet ≤ 70 then some (octet - 55)
  else if 97 ≤ octet ∧ octet ≤ 102 then some (octet - 87)
  else none

/-- Octets with every percent sign in front of two hexadecimal digits replaced by what they spell. -/
def percentOctets : List UInt8 → List UInt8
  | 37 :: high :: low :: rest =>
    match hexOctet? high, hexOctet? low with
    | some h, some l => (16 * h + l) :: percentOctets rest
    | _, _ => 37 :: percentOctets (high :: low :: rest)
  | octet :: rest => octet :: percentOctets rest
  | [] => []

/-- The text a percent-encoded text stands for, none when its octets are not well formed. -/
def percentDecode? (text : List Char) : Option (List Char) :=
  utf8Text? (percentOctets (utf8Octets text))

end Scoreboard
