import Scoreboard.Json.Pretty
import Scoreboard.Table

/-! The description of the API that the relay serves. -/

namespace Scoreboard

/-- A line of the API description. -/
structure Operation where
  path : String
  method : String
  tag : String
  statuses : List Nat
deriving DecidableEq, Repr

/-- The operations the API description lists, by path and method. -/
def apiOperations : List Operation :=
  [⟨"/api/overlay", "get", "overlay", [200]⟩,
    ⟨"/api/overlay/dismiss", "post", "overlay", [200]⟩,
    ⟨"/api/preferences", "get", "overlay", [200]⟩,
    ⟨"/api/preferences", "put", "overlay", [200]⟩,
    ⟨"/api/ranking/\x7btick\x7d", "get", "public", [200, 400, 404, 502]⟩,
    ⟨"/api/service-stats", "get", "public", [200, 502]⟩,
    ⟨"/api/state", "get", "public", [200]⟩,
    ⟨"/api/teams", "get", "public", [200]⟩,
    ⟨"/api/teams/\x7bid\x7d/points", "get", "public", [200, 404, 502]⟩,
    ⟨"/api/teams/\x7bid\x7d/points/total", "get", "public", [200, 404, 502]⟩,
    ⟨"/debug/trigger-final", "post", "debug", [200, 400]⟩,
    ⟨"/debug/trigger-firstblood", "post", "debug", [200, 404]⟩,
    ⟨"/healthcheck", "get", "health", [200]⟩,
    ⟨"/sse/public", "get", "sse", [200]⟩]

/-- The title of the API description. -/
def apiTitle : String := "scoreboard-relay"

/-- The version of the API description. -/
def apiVersion : String := "0.3.0"

/-- An operation in the description: its tag, and the statuses it answers with. -/
def Operation.describe (operation : Operation) : Json :=
  .object
    [("tags", .list [.string operation.tag]),
      ("responses", .object (operation.statuses.map fun status => (toString status, .object [])))]

/-- The described operations by path and method. -/
def describedPaths (operations : List Operation) : Table String (List (String × Json)) :=
  operations.foldl (fun paths operation =>
    paths.insert operation.path
      ((paths.get? operation.path).getD [] ++ [(operation.method, operation.describe)])) .empty

/-- The description of the API. -/
def apiDescription : Json :=
  .object
    [("openapi", .string "3.1.0"),
      ("info", .object [("title", .string apiTitle), ("version", .string apiVersion)]),
      ("paths", .object ((describedPaths apiOperations).entries.map fun entry =>
        (entry.1, .object entry.2)))]

end Scoreboard
