import Scoreboard.Http.MediaType
import Scoreboard.Json.Record

/-! JSON bodies of requests. -/

namespace Scoreboard

/-- Why a body is refused. -/
inductive BodyError
  /-- The content is not declared as JSON. -/
  | unsupportedType
  /-- The text is not JSON. -/
  | malformed
  /-- The text is JSON of another shape. -/
  | misshapen
deriving DecidableEq, Repr

/-- The status of a request whose body is refused. -/
def BodyError.status : BodyError → Nat
  | .unsupportedType => 415
  | .malformed => 400
  | .misshapen => 422

/-- Whether a content type declares JSON. -/
def declaresJson (contentType : List Char) : Bool :=
  ((MediaType.parse? contentType).map MediaType.isJson).getD false

/-- The document in a body that is declared as a content type. -/
def bodyDocument {α : Type} (codec : Codec α) (contentType : Option String) (body : String) :
    Except BodyError α :=
  match contentType with
  | none => .error .unsupportedType
  | some contentType =>
    if !declaresJson contentType.toList then .error .unsupportedType
    else match codec.ofText body with
      | .ok document => .ok document
      | .error problem =>
        match problem.family with
        | .misshapen => .error .misshapen
        | .broken | .cutOff => .error .malformed

/-- The first blood a request wants to be announced; what it leaves open is filled in. -/
structure FirstBloodWish where
  service : Option String
  team : Option String
deriving DecidableEq, Repr

/-- The members of a wish for a first blood. -/
def FirstBloodWish.record : Record [Option String, Option String] FirstBloodWish where
  fields := .cons (.omissible "service" .string) <| .cons (.omissible "team" .string) .nil
  make := fun (service, team, ()) => ⟨service, team⟩
  parts wish := (wish.service, wish.team, ())

end Scoreboard
