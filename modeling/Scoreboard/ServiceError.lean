import Scoreboard.Api.Endpoint
import Scoreboard.Pacing.Retry

/-! Why a question to the relay is not answered. -/

namespace Scoreboard

/-- Why the relay does not answer. -/
inductive ServiceError
  /-- The backend failed for good. -/
  | backendFailed (failure : RetryError ApiError)
  /-- No tick is negative. -/
  | negativeTick (tick : Tick)
  /-- The scoreboard of a tick is yet to come. -/
  | unpublishedTick (tick : Tick)
  /-- No scoreboard has been published. -/
  | noScoreboard
  /-- No service is known. -/
  | noService
  /-- No team is known. -/
  | noTeam
deriving DecidableEq, Repr

/-- The three kinds of failures. -/
inductive ServiceError.Kind
  | backend
  | invalidInput
  | notFound
deriving DecidableEq, Repr

namespace ServiceError

/-- The kind of a failure. -/
def kind : ServiceError → Kind
  | .backendFailed _ => .backend
  | .negativeTick _ | .noScoreboard => .invalidInput
  | .unpublishedTick _ | .noService | .noTeam => .notFound

/-- What is wrong, without the kind of the failure. -/
def detail : ServiceError → String
  | .backendFailed failure => failure.message ++ ": " ++ failure.last.message
  | .negativeTick tick => "tick " ++ String.ofList (intDigits tick.toInt) ++ " does not exist"
  | .unpublishedTick tick =>
    "scoreboard of tick " ++ String.ofList (intDigits tick.toInt) ++ " is not published yet"
  | .noScoreboard => "no scoreboard published yet"
  | .noService => "no service known yet"
  | .noTeam => "no team known yet"

/-- The wording of a failure. -/
def message (problem : ServiceError) : String :=
  match problem.kind with
  | .backend => "scoreboard backend unavailable"
  | .invalidInput => "invalid input: " ++ problem.detail
  | .notFound => "not found: " ++ problem.detail

end ServiceError

end Scoreboard
