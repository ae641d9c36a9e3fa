import Scoreboard.Document.Service

/-! The scoreboard of one tick. -/

namespace Scoreboard

/-- The place of one team on a scoreboard. -/
structure Rank where
  teamId : TeamId
  rank : UInt32
  points : Float
  offense : Float
  defense : Float
  sla : Float
  deltaOffense : Float
  deltaDefense : Float
  deltaSla : Float
  services : List ServiceResult

/-- The members of a rank. -/
def Rank.record :
    Record [Int64, UInt32, Float, Float, Float, Float, Float, Float, Float, List ServiceResult]
      Rank where
  fields :=
    .cons (.required "team_id" .int64) <|
    .cons (.required "rank" .uint32) <|
    .cons (.required "points" .float) <|
    .cons (.required "o" .float) <|
    .cons (.required "d" .float) <|
    .cons (.required "s" .float) <|
    .cons (.defaulted "do" .float 0) <|
    .cons (.defaulted "dd" .float 0) <|
    .cons (.defaulted "ds" .float 0) <|
    .cons (.required "services" (.list .serviceResult)) .nil
  make := fun (teamId, rank, points, offense, defense, sla, deltaOffense, deltaDefense, deltaSla,
      services, ()) =>
    ⟨teamId, rank, points, offense, defense, sla, deltaOffense, deltaDefense, deltaSla, services⟩
  parts r := (r.teamId, r.rank, r.points, r.offense, r.defense, r.sla, r.deltaOffense,
    r.deltaDefense, r.deltaSla, r.services, ())

/-- The document of one rank. -/
def Codec.rank : Codec Rank :=
  Rank.record.codec

/-- The scoreboard of one tick. -/
structure Round where
  tick : Tick
  services : List Service
  scoreboard : List Rank

/-- The members of a round. -/
def Round.record : Record [Int64, List Service, List Rank] Round where
  fields :=
    .cons (.required "tick" .int64) <|
    .cons (.required "services" (.list .service)) <|
    .cons (.required "scoreboard" (.list .rank)) .nil
  make := fun (tick, services, scoreboard, ()) => ⟨tick, services, scoreboard⟩
  parts r := (r.tick, r.services, r.scoreboard, ())

/-- The document of one round. -/
def Codec.round : Codec Round :=
  Round.record.codec

/-- The names of the services of a round in its order. -/
def Round.serviceNames (round : Round) : List String :=
  round.services.map Service.name

/-- The first rank of a team. -/
def Round.rankOf? (round : Round) (team : TeamId) : Option Rank :=
  round.scoreboard.find? fun rank => rank.teamId = team

end Scoreboard
