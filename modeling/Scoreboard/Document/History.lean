import Scoreboard.Document.Service

/-! Points and attack statistics over all ticks. -/

namespace Scoreboard

/-- Points of a team, a series over ticks for each service. -/
abbrev PointHistory := List (List Float)

/-- Point histories as documents. -/
def Codec.pointHistory : Codec PointHistory :=
  .list (.list .float)

/-- The point history of one team. -/
structure TeamHistory where
  services : List Service
  points : PointHistory

/-- The members of a team history. -/
def TeamHistory.record : Record [List Service, PointHistory] TeamHistory where
  fields :=
    .cons (.defaulted "services" (.list .service) []) <|
    .cons (.required "points" .pointHistory) .nil
  make := fun (services, points, ()) => ⟨services, points⟩
  parts h := (h.services, h.points, ())

/-- The document of one team's history. -/
def Codec.teamHistory : Codec TeamHistory :=
  TeamHistory.record.codec

/-- How many teams attack a service in one tick, and how many are its victims. -/
structure ServiceStat where
  attackers : UInt32
  victims : UInt32
deriving DecidableEq, Repr

/-- The members of a service statistic. -/
def ServiceStat.record : Record [UInt32, UInt32] ServiceStat where
  fields := .cons (.required "a" .uint32) <| .cons (.required "v" .uint32) .nil
  make := fun (attackers, victims, ()) => ⟨attackers, victims⟩
  parts s := (s.attackers, s.victims, ())

/-- Attack statistics as documents, a series over ticks for each service. -/
def Codec.statSeries : Codec (List (List ServiceStat)) :=
  .list (.list ServiceStat.record.codec)

/-- The attack statistics of all services. -/
structure ServiceStats where
  services : List Service
  stats : List (List ServiceStat)
deriving DecidableEq, Repr

/-- The members of the attack statistics. -/
def ServiceStats.record : Record [List Service, List (List ServiceStat)] ServiceStats where
  fields :=
    .cons (.defaulted "services" (.list .service) []) <|
    .cons (.required "stats" .statSeries) .nil
  make := fun (services, stats, ()) => ⟨services, stats⟩
  parts s := (s.services, s.stats, ())

/-- The document of the attack statistics. -/
def Codec.serviceStats : Codec ServiceStats :=
  ServiceStats.record.codec

end Scoreboard
