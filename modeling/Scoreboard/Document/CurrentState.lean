import Scoreboard.Json.Record

/-! The document that says where the game stands: ticks, phase and banned teams. -/

namespace Scoreboard

/-- The number of a team. -/
abbrev TeamId := Int64

/-- The number of a tick. -/
abbrev Tick := Int64

/-- The phases of a game. -/
inductive GamePhase
  | stopped
  | suspended
  | running
deriving DecidableEq, Repr, Inhabited

/-- The number a phase is written as. -/
def GamePhase.code : GamePhase → Nat
  | .stopped => 1
  | .suspended => 2
  | .running => 3

/-- The phase a number stands for. -/
def GamePhase.ofCode? : Nat → Option GamePhase
  | 1 => some .stopped
  | 2 => some .suspended
  | 3 => some .running
  | _ => none

/-- Game phases by their numbers, which have to fit into eight bits. -/
def Codec.phase : Codec GamePhase where
  read _ text := do
    let (code, text) ← readWithin 0 255 text
    match GamePhase.ofCode? code.toNat with
    | some phase => .ok (phase, text)
    | none => .error (.unknownPhase code.toNat)
  write phase := natDigits phase.code

/-- Where the game stands. -/
structure CurrentState where
  currentTick : Tick
  state : GamePhase
  /-- The Unix second at which the current tick ends. -/
  currentTickUntil : Int64
  /-- The newest tick whose scoreboard is published. -/
  scoreboardTick : Tick
  bannedTeams : Option (List TeamId)
deriving DecidableEq, Repr

/-- The state of a game nobody has heard of yet. -/
def CurrentState.unknown : CurrentState :=
  ⟨-1, .stopped, 0, -1, none⟩

/-- The members of the current state. -/
def CurrentState.record :
    Record [Int64, GamePhase, Int64, Int64, Option (List Int64)] CurrentState where
  fields :=
    .cons (.required "current_tick" .int64) <|
    .cons (.required "state" .phase) <|
    .cons (.required "current_tick_until" .int64) <|
    .cons (.required "scoreboard_tick" .int64) <|
    .cons ⟨"banned_teams", Codec.optional (.list .int64), some none, some none, Option.isNone⟩ .nil
  make := fun (tick, state, ends, scoreboard, banned, ()) => ⟨tick, state, ends, scoreboard, banned⟩
  parts s := (s.currentTick, s.state, s.currentTickUntil, s.scoreboardTick, s.bannedTeams, ())

/-- The document of the current state. -/
def Codec.currentState : Codec CurrentState :=
  CurrentState.record.codec

/-- A number put into its place in an ascending list without repetitions. -/
def insertAscending (x : Int64) : List Int64 → List Int64
  | [] => [x]
  | y :: rest => if x < y then x :: y :: rest else if x = y then y :: rest else y :: insertAscending x rest

/-- The banned teams in ascending order, each once. -/
def CurrentState.bannedSet (current : CurrentState) : List TeamId :=
  (current.bannedTeams.getD []).foldl (fun set team => insertAscending team set) []

end Scoreboard
