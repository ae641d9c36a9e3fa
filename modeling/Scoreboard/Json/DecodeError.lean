/-! Why a text is refused as a document. -/

namespace Scoreboard

/-- The first problem met while a text is read from left to right. -/
inductive DecodeError
  /-- The text ends too early. -/
  | truncated
  /-- The text is not JSON. -/
  | malformed
  /-- An object closes without a member it needs. -/
  | missingField (name : String)
  /-- An object has a member twice. -/
  | duplicateField (name : String)
  /-- A game phase has a number that stands for none. -/
  | unknownPhase (code : Nat)
  /-- A list closes before an element it needs. -/
  | shortList (length : Nat)
  /-- A value is of another kind than the one wanted. -/
  | wrongKind
  /-- A whole number does not fit. -/
  | outOfRange
  /-- A logo is neither a text nor a flag. -/
  | notALogo
deriving DecidableEq, Repr

/-- The three families of problems: broken text, text cut off, and well-formed text of another shape. -/
inductive DecodeError.Family
  | broken
  | cutOff
  | misshapen
deriving DecidableEq, Repr

/-- The family a problem belongs to. -/
def DecodeError.family : DecodeError → DecodeError.Family
  | .truncated => .cutOff
  | .malformed => .broken
  | _ => .misshapen

/-- The wording of a problem with the shape of a document, empty for the other families. -/
def DecodeError.message : DecodeError → String
  | .truncated | .malformed => ""
  | .missingField name => "missing field `" ++ name ++ "`"
  | .duplicateField name => "duplicate field `" ++ name ++ "`"
  | .unknownPhase code => "unknown game state " ++ toString code
  | .shortList length => "invalid length " ++ toString length
  | .wrongKind => "invalid type"
  | .outOfRange => "invalid value"
  | .notALogo => "data did not match any variant of untagged enum LogoField"

end Scoreboard
