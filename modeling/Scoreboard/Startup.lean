import Scoreboard.Api.BaseUrl
import Scoreboard.Settings
import Scoreboard.Text.Digits

/-! The start of the relay: which backend it asks, where it listens, and why it gives up. -/

namespace Scoreboard

/-- What the environment says to the relay. -/
structure Environment where
  /-- The first setting of where to listen. -/
  socket : Option String
  /-- The setting that counts when the first one is missing. -/
  serverSocket : Option String
  apiUrl : Option String
  configPath : Option String
deriving DecidableEq, Repr

/-- The socket the relay listens on: the first one set, or a standard one for a broken number. -/
def Environment.listenSocket (environment : Environment) : UInt16 :=
  let text := environment.socket.or environment.serverSocket
  (text.bind fun text => uint16Value? text.toList).getD 8080

/-- An address to listen on from everywhere. -/
def listenAddress (socket : UInt16) : String :=
  "0.0.0.0:" ++ String.ofList (natDigits socket.toNat)

/-- Why the relay gives up at its start. -/
inductive StartError
  /-- The address of the backend is no absolute one. -/
  | invalidUrl (address : String)
  /-- Somebody else listens on the socket. -/
  | addressInUse
deriving DecidableEq, Repr

/-- The text with which the relay gives up. -/
def StartError.report : StartError → String
  | .invalidUrl address =>
    "Error: building scoreboard API client\n\nCaused by:\n    " ++ invalidUrlMessage address ++ "\n"
  | .addressInUse =>
    "Error: binding server\n\nCaused by:\n    Address already in use (os error 98)\n"

/-- What the relay does at its start. -/
structure Startup where
  /-- The address of the backend as it is configured. -/
  url : String
  /-- Where the relay listens, none when it gives up before. -/
  address : Option String
  problem : Option StartError
deriving DecidableEq, Repr

/-- The start of a relay with settings, in an environment where its socket may be taken. -/
def Startup.of (settings : Settings) (environment : Environment) (taken : Bool) : Startup :=
  if (baseUrl? settings.apiBaseUrl).isNone then
    ⟨settings.apiBaseUrl, none, some (.invalidUrl settings.apiBaseUrl)⟩
  else
    ⟨settings.apiBaseUrl, some (listenAddress environment.listenSocket),
      if taken then some .addressInUse else none⟩

/-- What the relay says while it starts. -/
def Startup.lines (startup : Startup) : List String :=
  ("relaying scoreboard backend url=" ++ startup.url) ::
    (startup.address.map fun address => "starting server addr=" ++ address).toList

/-- The code with which the relay exits, having been told to stop unless it gave up. -/
def Startup.exitCode (startup : Startup) : Nat :=
  if startup.problem.isSome then 1 else 0

/-- What the relay writes when it exits. -/
def Startup.errorText (startup : Startup) : String :=
  (startup.problem.map StartError.report).getD ""

end Scoreboard
