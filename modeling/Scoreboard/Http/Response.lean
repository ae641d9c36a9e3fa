import Scoreboard.ServiceError

/-! What the relay answers to a request over HTTP. -/

namespace Scoreboard

/-- A status with the text of a JSON body, if there is one. -/
structure Response where
  status : Nat
  body : Option (List Char)
deriving DecidableEq, Repr

namespace Response

/-- A response that is a status alone. -/
def bare (status : Nat) : Response :=
  ⟨status, none⟩

/-- A successful response with a document. -/
def ofDocument (document : List Char) : Response :=
  ⟨200, some document⟩

/-- A response that says what is wrong. -/
def ofProblem (status : Nat) (message : String) : Response :=
  ⟨status, some (writeObject [writeMember "message" (quote message.toList)])⟩

/-- The response to a request that failed. -/
def ofError (problem : ServiceError) : Response :=
  -- A document the backend lacks is missing here too; any other trouble with it is a bad gateway.
  match problem with
  | .backendFailed ⟨_, .status endpoint 404⟩ =>
    ofProblem 404 ("not found: `" ++ endpoint.path ++ "` is not published")
  | problem =>
    match problem.kind with
    | .backend => ofProblem 502 ("bad gateway: " ++ problem.detail)
    | .invalidInput => ofProblem 400 ("bad request: " ++ problem.detail)
    | .notFound => ofProblem 404 ("not found: " ++ problem.detail)

/-- The response to a request with a result or a failure. -/
def ofResult {α : Type} (write : α → List Char) : Except ServiceError α → Response
  | .ok value => ofDocument (write value)
  | .error problem => ofError problem

end Response

end Scoreboard
