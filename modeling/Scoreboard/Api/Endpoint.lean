import Scoreboard.Api.Status
import Scoreboard.Document.History
import Scoreboard.Document.Round
import Scoreboard.Document.Team
import Scoreboard.LiveState

/-! The documents a backend serves, and what becomes of a request for one of them. -/

namespace Scoreboard

/-- A document of the backend. -/
inductive Endpoint
  | currentState
  | teams
  | serviceStats
  | round (tick : Tick)
  | teamHistory (team : TeamId)
deriving DecidableEq, Repr

/-- Where a document is served, behind the base address. -/
def Endpoint.path : Endpoint → String
  | .currentState => "scoreboard_current.json"
  | .teams => "scoreboard_teams.json"
  | .serviceStats => "scoreboard_service_stats.json"
  | .round tick => "scoreboard_round_" ++ String.ofList (intDigits tick.toInt) ++ ".json"
  | .teamHistory team => "scoreboard_team_" ++ String.ofList (intDigits team.toInt) ++ ".json"

/-- What comes back for a request. -/
inductive Reply
  /-- No response at all. -/
  | unanswered
  /-- A response with its date header; a body that was cut off is none. -/
  | answered (status : Nat) (date : Option String) (body : Option (List Char))
deriving DecidableEq, Repr

/-- Why a request for a document failed. -/
inductive ApiError
  /-- No response came. -/
  | unanswered (endpoint : Endpoint)
  /-- The response does not report success. -/
  | status (endpoint : Endpoint) (status : Nat)
  /-- The body is not the document. -/
  | undecodable (endpoint : Endpoint)
deriving DecidableEq, Repr

/-- The wording of a failed request. -/
def ApiError.message : ApiError → String
  | .unanswered endpoint => "failed to send scoreboard request to `" ++ endpoint.path ++ "`"
  | .status endpoint code =>
    "unexpected scoreboard response status " ++ statusText code ++ " for `" ++ endpoint.path ++ "`"
  | .undecodable endpoint =>
    "failed to decode scoreboard response for `" ++ endpoint.path ++ "`"

/-- The text of a header without the blanks around it, none beyond visible characters. -/
def headerText? (value : String) : Option String :=
  let text := trimBoth (fun c => c == ' ' || c == '\t') value.toList
  if text.all fun c => c == '\t' || (0x20 ≤ c.toNat && c.toNat < 0x7F) then
    some (String.ofList text)
  else none

/-- Whether a header may have a value: there is no control character in it but the tab. -/
def isHeaderValue (value : String) : Bool :=
  value.toList.all fun c => c == '\t' || (0x20 ≤ c.toNat && c.toNat ≠ 0x7F)

/-- Whether a status code of three digits ends an exchange; others in the first hundred announce more. -/
def endsExchange (status : Nat) : Bool :=
  status = 101 || (200 ≤ status && status ≤ 999)

/-- What comes back when a message is sent and then nothing more. -/
def Reply.ofMessage (status : Nat) (date : Option String) (body : Option (List Char)) : Reply :=
  -- A response without content has no body, whatever is sent behind it.
  if endsExchange status && date.all isHeaderValue then
    .answered status (date.bind headerText?) (if status = 204 then some [] else body)
  else .unanswered

/-- The document in a reply. -/
def Reply.document {α : Type} (reply : Reply) (endpoint : Endpoint) (codec : Codec α) :
    Except ApiError α :=
  -- The status is looked at before the body.
  match reply with
  | .unanswered => .error (.unanswered endpoint)
  | .answered status _ body =>
    if !isSuccess status then .error (.status endpoint status)
    else match body.map codec.decode with
      | some (.ok document) => .ok document
      | _ => .error (.undecodable endpoint)

/-- The date header of a reply. -/
def Reply.date : Reply → Option String
  | .unanswered => none
  | .answered _ date _ => date

/-- The state of the game in a reply, with the date of the response. -/
def Reply.stateResponse (reply : Reply) : Except ApiError StateResponse :=
  (reply.document .currentState .currentState).map fun state => ⟨state, reply.date⟩

/-- A response to the question where the game stands, as a document. -/
def StateResponse.write (response : StateResponse) : List Char :=
  writeObject
    [writeMember "state" (Codec.currentState.write response.state),
      writeMember "date" ((Codec.optional .string).write response.date)]

end Scoreboard
