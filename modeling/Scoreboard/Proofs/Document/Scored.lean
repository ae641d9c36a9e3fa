import Scoreboard.Document.Round
import Scoreboard.Proofs.Document.Plain
import Scoreboard.Proofs.Json.Doubles

/-! Rounds and histories that are relayed say what was read, as long as doubles come back. -/

namespace Scoreboard

deriving instance DecidableEq for ServiceResult, Rank, Round, TeamHistory

/-- The doubles of a service result. -/
def ServiceResult.doubles (result : ServiceResult) : List Float :=
  [result.offense, result.defense, result.sla, result.deltaOffense, result.deltaDefense,
    result.deltaSla]

/-- The doubles of a rank, those of its services included. -/
def Rank.doubles (rank : Rank) : List Float :=
  [rank.points, rank.offense, rank.defense, rank.sla, rank.deltaOffense, rank.deltaDefense,
    rank.deltaSla] ++ rank.services.flatMap ServiceResult.doubles

/-- The doubles of a round. -/
def Round.doubles (round : Round) : List Float :=
  round.scoreboard.flatMap Rank.doubles

/-- The doubles of a history. -/
def TeamHistory.doubles (history : TeamHistory) : List Float :=
  history.points.flatten

section Results

/-- Every status comes back from its name, an unknown one as unknown. -/
theorem CheckerStatus.ofName_name (status : CheckerStatus) : ofName status.name = status := by
  cases status <;> decide

/-- A status comes back from its text. -/
theorem Codec.checkerStatus_returns (status : CheckerStatus) :
    Codec.checkerStatus.Returns 0 status where
  -- A status is written as the string of its name.
  starts := ⟨'"', _, rfl, by decide⟩
  reads room rest _ _ := by
    show (readString (status.name.toList.flatMap escapeChar ++ ['"'] ++ rest)).map _ = _
    rw [readString_toList]
    exact congrArg (fun status => Except.ok (status, rest)) status.ofName_name

/-- A message comes back, and so does its absence. -/
theorem Codec.message_returns (message : Option String) :
    (Codec.optional .string).Returns 0 message := by
  cases message with
  | none => exact Codec.optional_returns_none
  | some text => exact Codec.optional_returns_some (Codec.string_returns text) (by nofun)

/-- A service result comes back when its doubles do. -/
theorem ServiceResult.returns {result : ServiceResult}
    (doubles : ∀ x ∈ result.doubles, Codec.float.Returns 0 x) :
    Codec.serviceResult.Returns 2 result := by
  -- All other members come back by themselves.
  have double : ∀ name, ∀ x ∈ result.doubles, (Field.required name .float).Returns 1 x :=
    fun name x member => Field.required_returns ((doubles x member).deeper (by decide))
  have count : ∀ name value, (Field.defaulted name .uint32 0).Returns 1 value := fun name value =>
    Field.defaulted_returns ((Codec.uint32_returns value).deeper (by decide))
  have change : ∀ name value, (Field.defaulted name .int64 0).Returns 1 value := fun name value =>
    Field.defaulted_returns ((Codec.int64_returns value).deeper (by decide))
  have status : (Field.required "c" .checkerStatus).Returns 1 result.status :=
    Field.required_returns ((Codec.checkerStatus_returns _).deeper (by decide))
  have previous :
      (Field.defaulted "dc" (.list .checkerStatus) []).Returns 1 result.previousStatus :=
    Field.defaulted_returns (Codec.list_returns fun status _ => Codec.checkerStatus_returns status)
  have message : (Field.defaulted "m" (Codec.optional .string) none).Returns 1 result.message :=
    Field.defaulted_returns ((Codec.message_returns _).deeper (by decide))
  refine Record.returns ⟨double _ _ ?_, double _ _ ?_, double _ _ ?_, double _ _ ?_,
    double _ _ ?_, double _ _ ?_, count _ _, count _ _, change _ _, change _ _, status, previous,
    message, trivial⟩ (by decide) rfl <;> simp [ServiceResult.doubles]

/-- The doubles of a service result that is read are finite. -/
theorem ServiceResult.isFinite_of_yields {result : ServiceResult}
    (yields : Codec.serviceResult.Yields result) : ∀ x ∈ result.doubles, x.isFinite = true := by
  -- The doubles are the required members at the front, and each was read as a double.
  have finite : ∀ {name x}, (Field.required name .float).Yields x → x.isFinite = true :=
    fun yields => Codec.isFinite_of_float yields.required
  obtain ⟨⟨_, _, _, _, _, _, _⟩, ⟨offense, defense, sla, deltaOffense, deltaDefense, deltaSla, _⟩,
    rfl⟩ := Record.yields yields
  simp only [doubles, List.forall_mem_cons]
  exact ⟨finite offense, finite defense, finite sla, finite deltaOffense, finite deltaDefense,
    finite deltaSla, List.forall_mem_nil _⟩

end Results

section Rounds

/-- A rank comes back when its doubles do. -/
theorem Rank.returns {rank : Rank} (doubles : ∀ x ∈ rank.doubles, Codec.float.Returns 0 x) :
    Codec.rank.Returns 4 rank := by
  -- The doubles of the services stand behind those of the rank itself.
  have inner := (List.forall_mem_append.mp doubles).2
  have points : ∀ name, ∀ x ∈ rank.doubles, (Field.required name .float).Returns 3 x :=
    fun name x member => Field.required_returns ((doubles x member).deeper (by decide))
  have change : ∀ name, ∀ x ∈ rank.doubles, (Field.defaulted name .float 0).Returns 3 x :=
    fun name x member => Field.defaulted_returns ((doubles x member).deeper (by decide))
  have team : (Field.required "team_id" .int64).Returns 3 rank.teamId :=
    Field.required_returns ((Codec.int64_returns _).deeper (by decide))
  have place : (Field.required "rank" .uint32).Returns 3 rank.rank :=
    Field.required_returns ((Codec.uint32_returns _).deeper (by decide))
  have services : (Field.required "services" (.list .serviceResult)).Returns 3 rank.services :=
    Field.required_returns (Codec.list_returns fun result member =>
      ServiceResult.returns fun x inside => inner x (List.mem_flatMap.mpr ⟨result, member, inside⟩))
  refine Record.returns ⟨team, place, points _ _ ?_, points _ _ ?_, points _ _ ?_, points _ _ ?_,
    change _ _ ?_, change _ _ ?_, change _ _ ?_, services, trivial⟩ (by decide) rfl <;>
    simp [Rank.doubles]

/-- The doubles of a rank that is read are finite. -/
theorem Rank.isFinite_of_yields {rank : Rank} (yields : Codec.rank.Yields rank) :
    ∀ x ∈ rank.doubles, x.isFinite = true := by
  have finite : ∀ {name x}, (Field.required name .float).Yields x → x.isFinite = true :=
    fun yields => Codec.isFinite_of_float yields.required
  have changed : ∀ {name x}, (Field.defaulted name .float 0).Yields x → x.isFinite = true := by
    intro name x yields
    -- Points that are left out are zero, which is finite as well.
    rcases yields.defaulted with read | rfl
    · exact Codec.isFinite_of_float read
    · rfl
  obtain ⟨⟨_, _, _, _, _, _, _, _, _, results, _⟩, ⟨_, _, points, offense, defense, sla,
    deltaOffense, deltaDefense, deltaSla, services, _⟩, rfl⟩ := Record.yields yields
  refine List.forall_mem_append.mpr ⟨?_, fun x member => ?_⟩
  · simp only [List.forall_mem_cons]
    exact ⟨finite points, finite offense, finite defense, finite sla, changed deltaOffense,
      changed deltaDefense, changed deltaSla, List.forall_mem_nil _⟩
  · obtain ⟨result, inside, member⟩ := List.mem_flatMap.mp member
    have read : Codec.serviceResult.Yields result :=
      Codec.yields_of_list services.required result inside
    exact ServiceResult.isFinite_of_yields read x member

/-- A round comes back when its doubles do. -/
theorem Round.returns {round : Round} (doubles : ∀ x ∈ round.doubles, Codec.float.Returns 0 x) :
    Codec.round.Returns 6 round := by
  -- The doubles of a round are those of its ranks.
  have tick : (Field.required "tick" .int64).Returns 5 round.tick :=
    Field.required_returns ((Codec.int64_returns _).deeper (by decide))
  have services : (Field.required "services" (.list .service)).Returns 5 round.services :=
    Field.required_returns ((Codec.services_returns _).deeper (by decide))
  have scoreboard : (Field.required "scoreboard" (.list .rank)).Returns 5 round.scoreboard :=
    Field.required_returns (Codec.list_returns fun rank member =>
      Rank.returns fun x inside => doubles x (List.mem_flatMap.mpr ⟨rank, member, inside⟩))
  exact Record.returns ⟨tick, services, scoreboard, trivial⟩ (by decide) rfl

/-- The doubles of a round that is read are finite. -/
theorem Round.isFinite_of_yields {round : Round} (yields : Codec.round.Yields round) :
    ∀ x ∈ round.doubles, x.isFinite = true := by
  -- Each double belongs to a rank of the scoreboard, which was read.
  obtain ⟨⟨_, _, scoreboard, _⟩, ⟨_, _, ranks, _⟩, rfl⟩ := Record.yields yields
  intro x member
  obtain ⟨rank, inside, member⟩ := List.mem_flatMap.mp member
  have read : Codec.rank.Yields rank := Codec.yields_of_list ranks.required rank inside
  exact Rank.isFinite_of_yields read x member

end Rounds

section Histories

/-- A history comes back when its doubles do. -/
theorem TeamHistory.returns {history : TeamHistory}
    (doubles : ∀ x ∈ history.doubles, Codec.float.Returns 0 x) :
    Codec.teamHistory.Returns 4 history := by
  -- The doubles of a history are those in the rows of its series.
  have services : (Field.defaulted "services" (.list .service) []).Returns 3 history.services :=
    Field.defaulted_returns (Codec.services_returns _)
  have series : Codec.pointHistory.Returns 2 history.points :=
    Codec.list_returns fun row member => Codec.list_returns fun x inside =>
      doubles x (List.mem_flatten.mpr ⟨row, member, inside⟩)
  have points : (Field.required "points" .pointHistory).Returns 3 history.points :=
    Field.required_returns (series.deeper (by decide))
  exact Record.returns ⟨services, points, trivial⟩ (by decide) rfl

/-- The doubles of a history that is read are finite. -/
theorem TeamHistory.isFinite_of_yields {history : TeamHistory}
    (yields : Codec.teamHistory.Yields history) : ∀ x ∈ history.doubles, x.isFinite = true := by
  -- Each double stands in a row of the series, which was read.
  obtain ⟨⟨_, points, _⟩, ⟨_, series, _⟩, rfl⟩ := Record.yields yields
  intro x member
  obtain ⟨row, inside, member⟩ := List.mem_flatten.mp member
  have read : (Codec.list .float).Yields row := Codec.yields_of_list series.required row inside
  exact Codec.isFinite_of_float (Codec.yields_of_list read x member)

end Histories

section Whole

/-- Doubles that are finite and come back from their own texts come back inside documents. -/
theorem Codec.floats_return {doubles : List Float}
    (finite : ∀ x ∈ doubles, x.isFinite = true)
    (restores : ∀ x ∈ doubles, x.isFinite = true → Codec.float.Restores x) :
    ∀ x ∈ doubles, Codec.float.Returns 0 x :=
  fun x member => Codec.float_returns (finite x member) (restores x member (finite x member))

/-- A round or a history that is read is unchanged when it is written and read again, as long as its
finite doubles come back from their texts. -/
theorem relayed_documents_unchanged :
    (∀ text round, Codec.round.ofText text = .ok round →
      (∀ x ∈ round.doubles, x.isFinite = true → Codec.float.Restores x) →
      Codec.round.Restores round) ∧
    (∀ text history, Codec.teamHistory.ofText text = .ok history →
      (∀ x ∈ history.doubles, x.isFinite = true → Codec.float.Restores x) →
      Codec.teamHistory.Restores history) := by
  -- Doubles that were read are finite, so the assumption is about all of them.
  constructor
  · -- No literal that is read is infinite, so all doubles of the round come back.
    intro text round read restores
    have finite := Round.isFinite_of_yields (Codec.yields_of_ofText read)
    exact (Round.returns (Codec.floats_return finite restores)).ofText (by decide)
  · intro text history read restores
    have finite := TeamHistory.isFinite_of_yields (Codec.yields_of_ofText read)
    exact (TeamHistory.returns (Codec.floats_return finite restores)).ofText (by decide)

/-- The text of a round with one rank, in which a status has a name that none is known by. -/
def Sample.demotedText : String :=
  "\x7b\"tick\":7,\"services\":[],\"scoreboard\":[\x7b\"team_id\":3,\"rank\":1,\"points\":5.25," ++
    "\"o\":1e2,\"d\":0.5,\"s\":-1,\"services\":[\x7b\"o\":0.1,\"d\":2,\"s\":3,\"do\":4,\"dd\":5," ++
    "\"ds\":6,\"dst\":-8,\"c\":\"DEMOTED\"\x7d]\x7d]\x7d"

/-- That round, with the defaults of the members that are left out. -/
def Sample.demoted : Round :=
  ⟨7, [], [⟨3, 1, 5.25, 100, 0.5, -1, 0, 0, 0,
    [⟨0.1, 2, 3, 4, 5, 6, 0, 0, -8, 0, .unknown, [], none⟩]⟩]⟩

set_option maxRecDepth 4096 in
/-- A round with an unknown status is unchanged, and so is a history with very large points. -/
theorem demoted_round_unchanged :
    Codec.round.ofText Sample.demotedText = .ok Sample.demoted ∧
      Codec.round.Restores Sample.demoted ∧
      Codec.teamHistory.ofText "\x7b\"points\":[[0.1,2e300],[]]\x7d" =
        .ok ⟨[], [[0.1, 2e300], []]⟩ ∧
      Codec.teamHistory.Restores ⟨[], [[0.1, 2e300], []]⟩ := by
  -- Both texts are read by evaluation, and so are their doubles.
  have round : Codec.round.ofText Sample.demotedText = .ok Sample.demoted := by decide +kernel
  have history : Codec.teamHistory.ofText "\x7b\"points\":[[0.1,2e300],[]]\x7d" =
      .ok ⟨[], [[0.1, 2e300], []]⟩ := by decide +kernel
  exact ⟨round, relayed_documents_unchanged.1 _ _ round (by decide +kernel), history,
    relayed_documents_unchanged.2 _ _ history (by decide +kernel)⟩

end Whole

end Scoreboard
