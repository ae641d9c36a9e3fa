import Scoreboard.Document.Round

/-! Events of the running game, and which ones the step from one round to the next brings. -/

namespace Scoreboard

/-- Something that happens while the game is watched. -/
inductive LiveEvent
  /-- A team exploits a service before others do. -/
  | firstBlood (service team : String)
  /-- The game stops at a tick. -/
  | final (tick : Tick)
deriving DecidableEq, Repr

/-- An event as a document. -/
def LiveEvent.write : LiveEvent → List Char
  | .firstBlood service team => writeObject
    [writeMember "kind" (quote "first_blood".toList), writeMember "service" (quote service.toList),
      writeMember "team" (quote team.toList)]
  | .final tick => writeObject
    [writeMember "kind" (quote "final".toList), writeMember "tick" (intDigits tick.toInt)]

/-- How many first bloods of a service an earlier round knew, all of them when it lacked the service. -/
def knownFirstBloods (previous : Round) (service : Service) : Nat :=
  match previous.services.find? fun old => old.name = service.name with
  | some old => old.firstBlood.length
  | none => service.firstBlood.length

/-- The first bloods that a round adds to the one before, service by service. -/
def detectFirstBloods (previous round : Round) : List LiveEvent :=
  round.services.flatMap fun service =>
    (service.firstBlood.drop (knownFirstBloods previous service)).map (.firstBlood service.name)

/-- Whether two rounds list different services. -/
def servicesChanged (previous round : Round) : Bool :=
  previous.serviceNames ≠ round.serviceNames

end Scoreboard
