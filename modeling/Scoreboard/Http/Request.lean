import Scoreboard.Http.Response
import Scoreboard.Http.Route

/-! Requests to the relay over HTTP. -/

namespace Scoreboard

/-- A request over HTTP. -/
structure Request where
  method : Method
  address : String
  contentType : Option String
  body : String
deriving DecidableEq, Repr

/-- A response as the request wants it: one for the head alone has no body. -/
def Request.present (request : Request) (response : Response) : Response :=
  if request.method = .head then .bare response.status else response

end Scoreboard
