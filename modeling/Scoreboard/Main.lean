import Scoreboard.Http.ApiDescription
import Scoreboard.Startup

/-! The command line: the start of the relay, or the description of its API. -/

namespace Scoreboard

/-- The environment of the program. -/
def readEnvironment : IO Environment := do
  return ⟨← IO.getEnv "PORT", ← IO.getEnv "SERVER_PORT", ← IO.getEnv "SCOREBOARD_API_URL",
    ← IO.getEnv "SCOREBOARD_RELAY_CONFIG_PATH"⟩

/-- The content of a file, none when it cannot be read. -/
def readContent (path : String) : IO (Option (List Char)) := do
  try
    return some (← IO.FS.readFile path).toList
  catch _ =>
    return none

/-- Reports how the relay starts in the environment of the program. -/
def reportStartup : IO UInt32 := do
  let environment ← readEnvironment
  let content ← readContent (settingsPath environment.configPath)
  let startup := Startup.of (Settings.load content environment.apiUrl) environment false
  for line in startup.lines do
    IO.println line
  IO.eprint startup.errorText
  return startup.exitCode.toUInt32

end Scoreboard

/-- The program: it describes the API when it is asked to, and else reports its start. -/
def main (arguments : List String) : IO UInt32 := do
  if arguments = ["describe"] then
    IO.print (Scoreboard.Json.page Scoreboard.apiDescription)
    return 0
  else
    Scoreboard.reportStartup
