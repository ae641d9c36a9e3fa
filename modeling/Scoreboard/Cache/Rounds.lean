import Scoreboard.Document.Round
import Scoreboard.Table

/-! The rounds fetched so far, and the newest tick that has been processed. -/

namespace Scoreboard

/-- A fetched round; its serial number tells it from other fetches of the same document. -/
structure Snapshot where
  serial : Nat
  round : Round

/-- The rounds by the ticks they were fetched for. -/
structure RoundCache where
  rounds : Table Tick Snapshot
  /-- The newest tick whose processing has been claimed. -/
  processed : Tick

namespace RoundCache

/-- The cache before the first fetch. -/
def initial : RoundCache :=
  ⟨.empty, -1⟩

/-- The round of a tick. -/
def get? (cache : RoundCache) (tick : Tick) : Option Snapshot :=
  cache.rounds.get? tick

/-- The cache with a round of a tick in place of an older one. -/
def put (cache : RoundCache) (tick : Tick) (snapshot : Snapshot) : RoundCache :=
  { cache with rounds := cache.rounds.insert tick snapshot }

/-- Whether a tick has a round. -/
def contains (cache : RoundCache) (tick : Tick) : Bool :=
  cache.rounds.contains tick

/-- The cache without the round of a tick. -/
def invalidate (cache : RoundCache) (tick : Tick) : RoundCache :=
  { cache with rounds := cache.rounds.erase tick }

/-- Whether a tick is newer than everything processed. -/
def claimable (cache : RoundCache) (tick : Tick) : Bool :=
  cache.processed < tick

/-- The cache after an attempt to claim a tick, which never lowers the newest one processed. -/
def claim (cache : RoundCache) (tick : Tick) : RoundCache :=
  { cache with processed := max cache.processed tick }

end RoundCache

end Scoreboard
