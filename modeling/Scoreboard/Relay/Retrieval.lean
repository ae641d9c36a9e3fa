import Scoreboard.Relay.State

/-! Requests for documents that are repeated when they fail. -/

namespace Scoreboard

/-- How often and after which pauses the request for a document is repeated. -/
def Endpoint.policy : Endpoint → RetryPolicy
  | .round _ => ⟨1500, defaultRetryStep, 10⟩
  | .teamHistory _ | .serviceStats => ⟨1500, defaultRetryStep, 3⟩
  | .teams => ⟨2000, defaultRetryStep, 20⟩
  | .currentState => ⟨0, 0, 0⟩

/-- What follows on a request that failed. -/
inductive AfterFailure
  /-- A pause before a retry. -/
  | pausing (retry : Nat)
  | givenUp (problem : ServiceError)

/-- What follows when a request fails after so many retries. -/
def RetryPolicy.afterFailure (policy : RetryPolicy) (retry : Nat) (problem : ApiError) :
    AfterFailure :=
  if retry < policy.budget then .pausing (retry + 1)
  else .givenUp (.backendFailed ⟨policy.budget, problem⟩)

end Scoreboard
