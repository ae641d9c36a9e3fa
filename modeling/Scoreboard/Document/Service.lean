import Scoreboard.Document.CurrentState

/-! Services and how a team fares on one of them. -/

namespace Scoreboard

/-- A service of the game. -/
structure Service where
  name : String
  attackers : UInt32
  victims : UInt32
  /-- The teams that were first to exploit its flag stores, oldest first. -/
  firstBlood : List String
  flagStores : UInt32
  flagStoresExploited : UInt32
deriving DecidableEq, Repr

/-- The members of a service. -/
def Service.record : Record [String, UInt32, UInt32, List String, UInt32, UInt32] Service where
  fields :=
    .cons (.required "name" .string) <|
    .cons (.defaulted "attackers" .uint32 0) <|
    .cons (.defaulted "victims" .uint32 0) <|
    .cons (.defaulted "first_blood" (.list .string) []) <|
    .cons (.defaulted "flag_stores" .uint32 0) <|
    .cons (.defaulted "flag_stores_exploited" .uint32 0) .nil
  make := fun (name, attackers, victims, firstBlood, stores, exploited, ()) =>
    ⟨name, attackers, victims, firstBlood, stores, exploited⟩
  parts s := (s.name, s.attackers, s.victims, s.firstBlood, s.flagStores, s.flagStoresExploited, ())

/-- The document of one service. -/
def Codec.service : Codec Service :=
  Service.record.codec

/-- What the checker says about a team's service. -/
inductive CheckerStatus
  | success
  | flagMissing
  | mumble
  | offline
  | timeout
  | crash
  | recovering
  | revoked
  | pending
  | unknown
deriving DecidableEq, Repr

/-- The name a status is written as. -/
def CheckerStatus.name : CheckerStatus → String
  | .success => "SUCCESS"
  | .flagMissing => "FLAGMISSING"
  | .mumble => "MUMBLE"
  | .offline => "OFFLINE"
  | .timeout => "TIMEOUT"
  | .crash => "CRASH"
  | .recovering => "RECOVERING"
  | .revoked => "REVOKED"
  | .pending => "PENDING"
  | .unknown => "UNKNOWN"

/-- Every status that has a name of its own. -/
def CheckerStatus.named : List CheckerStatus :=
  [.success, .flagMissing, .mumble, .offline, .timeout, .crash, .recovering, .revoked, .pending]

/-- The status with a name, unknown when no status has it. -/
def CheckerStatus.ofName (name : String) : CheckerStatus :=
  (CheckerStatus.named.find? fun status => status.name = name).getD .unknown

/-- The text behind a `null`. -/
def readNull (text : List Char) : Except DecodeError (List Char) :=
  match dropBlanks text with
  | [] => .error .truncated
  | 'n' :: rest => readWord "ull".toList rest
  | text => .error (kindProblem text)

/-- The name in front of the only member of an object; anything but a string is malformed. -/
def readSoleName (text : List Char) : Except DecodeError (String × List Char) :=
  match dropBlanks text with
  | [] => .error .truncated
  | '"' :: rest => readString rest
  | _ => .error .malformed

/-- Statuses by name; a name may also be the only member of an object, over `null`. -/
def Codec.checkerStatus : Codec CheckerStatus where
  read room text :=
    match dropBlanks text, room with
    | [], _ => .error .truncated
    | '"' :: rest, _ => (readString rest).map fun (name, rest) => (.ofName name, rest)
    | '{' :: _, 0 => .error .malformed
    | '{' :: rest, _ + 1 => do
      let (name, rest) ← readSoleName rest
      let rest ← readNull (← readColon rest)
      match dropBlanks rest with
      | [] => .error .truncated
      | '}' :: rest => .ok (.ofName name, rest)
      | _ => .error .malformed
    | _, _ => .error .malformed
  write status := quote status.name.toList

/-- How a team fares on one service in one tick. -/
structure ServiceResult where
  offense : Float
  defense : Float
  sla : Float
  deltaOffense : Float
  deltaDefense : Float
  deltaSla : Float
  stolen : UInt32
  captured : UInt32
  deltaStolen : Int64
  deltaCaptured : Int64
  status : CheckerStatus
  previousStatus : List CheckerStatus
  message : Option String

/-- The members of a service result. -/
def ServiceResult.record :
    Record [Float, Float, Float, Float, Float, Float, UInt32, UInt32, Int64, Int64, CheckerStatus,
      List CheckerStatus, Option String] ServiceResult where
  fields :=
    .cons (.required "o" .float) <|
    .cons (.required "d" .float) <|
    .cons (.required "s" .float) <|
    .cons (.required "do" .float) <|
    .cons (.required "dd" .float) <|
    .cons (.required "ds" .float) <|
    .cons (.defaulted "st" .uint32 0) <|
    .cons (.defaulted "cap" .uint32 0) <|
    .cons (.defaulted "dst" .int64 0) <|
    .cons (.defaulted "dcap" .int64 0) <|
    .cons (.required "c" .checkerStatus) <|
    .cons (.defaulted "dc" (.list .checkerStatus) []) <|
    .cons (.defaulted "m" (Codec.optional .string) none) .nil
  make := fun (offense, defense, sla, deltaOffense, deltaDefense, deltaSla, stolen, captured,
      deltaStolen, deltaCaptured, status, previousStatus, message, ()) =>
    ⟨offense, defense, sla, deltaOffense, deltaDefense, deltaSla, stolen, captured, deltaStolen,
      deltaCaptured, status, previousStatus, message⟩
  parts r := (r.offense, r.defense, r.sla, r.deltaOffense, r.deltaDefense, r.deltaSla, r.stolen,
    r.captured, r.deltaStolen, r.deltaCaptured, r.status, r.previousStatus, r.message, ())

/-- The document of one service result. -/
def Codec.serviceResult : Codec ServiceResult :=
  ServiceResult.record.codec

/-- All points of a service result together. -/
def ServiceResult.total (result : ServiceResult) : Float :=
  result.offense + result.defense + result.sla

end Scoreboard
