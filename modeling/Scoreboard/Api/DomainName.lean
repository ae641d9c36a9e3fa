import Scoreboard.Api.DomainSpelling
import Scoreboard.Text.Direction
import Scoreboard.Text.Joining
import Scoreboard.Text.Punycode

/-! Which texts name a host on the web, in any script. -/

namespace Scoreboard

/-- Whether an ASCII character can stand in no host. -/
def forbiddenInHost (c : Char) : Bool :=
  "\x00\t\n\r #/:<>?@[\\]^|".toList.contains c

/-- Whether an ASCII character can stand in no name of a host on the web. -/
def forbiddenInDomain (c : Char) : Bool :=
  forbiddenInHost c || c.toNat < 0x20 || c == '%' || c.toNat == 0x7F

/-- Whether a character is one of ASCII. -/
def isAscii (c : Char) : Bool :=
  c.toNat < 0x80

/-- The text a label stands for, none when it is a broken spelling of one. -/
def labelText? (label : List Char) : Option (List Char) :=
  match label with
  | 'x' :: 'n' :: '-' :: '-' :: spelling =>
    -- The text spelled has to be as it would be written itself.
    if spelling.all isAscii && spelling.length ≤ 2000 && !spelling.isEmpty
        && spelling.getLast? != some '-' then
      (punycodeText? spelling).filter fun text => text.all isPlainInNames && composed text == text
    else none
  | label => if label.all isAscii || label.length ≤ 1000 then some label else none

/-- Whether the characters of a label stand where they may. -/
def validLabel (label : List Char) : Bool :=
  !label.head?.any isMark && joinersFit [] label

/-- Whether the labels of a name are fine one by one and read together in one direction. -/
def validLabels (labels : List (List Char)) : Bool :=
  labels.all validLabel
    && (!labels.any hasLeftward || labels.all fun label => label.isEmpty || keepsDirection label)

/-- A name of a host as it counts, none when it is not one. -/
def domainName? (name : List Char) : Option (List Char) := do
  let name ← nameSpelled? name
  let labels ← (splitText '.' name).mapM labelText?
  if !name.isEmpty && !name.any forbiddenInDomain && validLabels labels then some name else none

end Scoreboard
