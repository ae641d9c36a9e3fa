import Scoreboard.Document.CurrentState
import Scoreboard.Text.Utf8

/-! The routes of the relay: which requests it knows. -/

namespace Scoreboard

/-- The methods that some route knows, and all others. -/
inductive Method
  | get
  | head
  | post
  | put
  | other
deriving DecidableEq, Repr

/-- The method with a name. -/
def Method.ofName : String → Method
  | "GET" => .get
  | "HEAD" => .head
  | "POST" => .post
  | "PUT" => .put
  | _ => .other

/-- What a request asks for. -/
inductive Route
  | health
  | publicStream
  | state
  | teams
  | ranking (tick : Tick)
  | points (team : TeamId)
  | pointTotals (team : TeamId)
  | serviceStats
  | overlay
  | dismissOverlay
  | preferences
  | updatePreferences
  | triggerFinal
  | triggerFirstBlood
  /-- The address that leads on to the documentation. -/
  | docsEntry
  /-- A page of the documentation. -/
  | docsPage (name : String)
  | apiDescription
deriving DecidableEq, Repr

/-- A resource: a path that the relay serves, with what stands in the place of a number. -/
inductive Resource
  | health
  | publicStream
  | state
  | teams
  | ranking (tick : List Char)
  | points (team : List Char)
  | pointTotals (team : List Char)
  | serviceStats
  | overlay
  | overlayDismissal
  | preferences
  | finalTrigger
  | firstBloodTrigger
  | docsEntry
  /-- A page of the documentation, with its name as the path spells it. -/
  | docsPage (name : List Char)
  | apiDescription

/-- The resource at a path. -/
def resourceAt? (path : List Char) : Option Resource :=
  -- The path is cut at its slashes; only in front of another slash may a number be empty text.
  match (splitText '/' path).map String.ofList with
  | ["", "healthcheck"] => some .health
  | ["", "sse", "public"] => some .publicStream
  | ["", "api", "state"] => some .state
  | ["", "api", "teams"] => some .teams
  | ["", "api", "ranking", tick] => if tick.isEmpty then none else some (.ranking tick.toList)
  | ["", "api", "teams", team, "points"] => some (.points team.toList)
  | ["", "api", "teams", team, "points", "total"] => some (.pointTotals team.toList)
  | ["", "api", "service-stats"] => some .serviceStats
  | ["", "api", "overlay"] => some .overlay
  | ["", "api", "overlay", "dismiss"] => some .overlayDismissal
  | ["", "api", "preferences"] => some .preferences
  | ["", "debug", "trigger-final"] => some .finalTrigger
  | ["", "debug", "trigger-firstblood"] => some .firstBloodTrigger
  | ["", "docs"] => some .docsEntry
  | "" :: "docs" :: page => some (.docsPage ("/".intercalate page).toList)
  | ["", "api-doc", "openapi.json"] => some .apiDescription
  | _ => none

/-- Why a request meets no route. -/
inductive RouteError
  | notFound
  | methodNotAllowed
  /-- A number or a name in the path cannot be read. -/
  | badSegment
deriving DecidableEq, Repr

/-- The number in a path, behind percent signs where they stand. -/
def pathNumber? (text : List Char) : Option Int64 :=
  (percentDecode? text).bind int64Value?

/-- The route with a number from the path. -/
def withNumber (text : List Char) (route : Int64 → Route) : Except RouteError Route :=
  match pathNumber? text with
  | some number => .ok (route number)
  | none => .error .badSegment

/-- What a method does with a resource, a request for the head alone doing what one for the whole does. -/
def Resource.route (resource : Resource) (method : Method) : Except RouteError Route :=
  let method := if method = .head then .get else method
  match resource, method with
  | .health, .get => .ok .health
  | .publicStream, .get => .ok .publicStream
  | .state, .get => .ok .state
  | .teams, .get => .ok .teams
  | .ranking tick, .get => withNumber tick .ranking
  | .points team, .get => withNumber team .points
  | .pointTotals team, .get => withNumber team .pointTotals
  | .serviceStats, .get => .ok .serviceStats
  | .overlay, .get => .ok .overlay
  | .overlayDismissal, .post => .ok .dismissOverlay
  | .preferences, .get => .ok .preferences
  | .preferences, .put => .ok .updatePreferences
  | .finalTrigger, .post => .ok .triggerFinal
  | .firstBloodTrigger, .post => .ok .triggerFirstBlood
  | .docsEntry, .get => .ok .docsEntry
  | .docsPage name, .get =>
    match percentDecode? name with
    | some name => .ok (.docsPage (String.ofList name))
    | none => .error .badSegment
  | .apiDescription, .get => .ok .apiDescription
  | _, _ => .error .methodNotAllowed

/-- The text behind the scheme of an address, none when it has no scheme and two slashes in front. -/
def behindScheme? (address : List Char) : Option (List Char) :=
  let isSchemeChar (c : Char) := c.isAlphanum || c == '+' || c == '-' || c == '.'
  match address.takeWhile isSchemeChar, address.dropWhile isSchemeChar with
  | _ :: _, ':' :: '/' :: '/' :: rest => some rest
  | _, _ => none

/-- The path of an address, without the query behind it. -/
def pathOf (address : List Char) : List Char :=
  -- An address with a scheme names a host first, and nothing behind that is the root.
  let isMark (c : Char) := c == '?' || c == '#'
  match behindScheme? address with
  | none => address.takeWhile fun c => !isMark c
  | some rest =>
    match (rest.dropWhile fun c => !(c == '/' || isMark c)).takeWhile fun c => !isMark c with
    | [] => ['/']
    | path => path

/-- The route of a request. -/
def routeOf (method : Method) (address : List Char) : Except RouteError Route :=
  match resourceAt? (pathOf address) with
  | none => .error .notFound
  | some resource => resource.route method

/-- Pages of the documentation that are there. -/
def docsPages : List String :=
  ["", "/", "index.html", "index.css", "swagger-initializer.js", "swagger-ui.css", "swagger-ui.css.map",
    "swagger-ui.js", "swagger-ui.js.map", "swagger-ui-bundle.js", "swagger-ui-bundle.js.map",
    "swagger-ui-es-bundle.js", "swagger-ui-es-bundle.js.map", "swagger-ui-es-bundle-core.js",
    "swagger-ui-es-bundle-core.js.map", "swagger-ui-standalone-preset.js",
    "swagger-ui-standalone-preset.js.map", "oauth2-redirect.html", "favicon-16x16.png",
    "favicon-32x32.png"]

end Scoreboard
