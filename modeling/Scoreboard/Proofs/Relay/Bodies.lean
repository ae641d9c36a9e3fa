import Scoreboard.Proofs.Document.Scored
import Scoreboard.Relay.Points

/-! Bodies: what the answers to requests for documents of the backend are read as. -/

namespace Scoreboard

/-- The members of an answer with points of a team, in whatever form these come. -/
def pointsRecord {α : Type} (points : Codec α) : Record [TeamId, α] (TeamId × α) where
  fields := .cons (.required "team_id" .int64) <| .cons (.required "points" points) .nil
  make := fun (team, points, ()) => (team, points)
  parts answer := (answer.1, answer.2, ())

/-- The only member of an answer with attack statistics. -/
def statsRecord : Record [List (List ServiceStat)] (List (List ServiceStat)) where
  fields := .cons (.required "stats" .statSeries) .nil
  make := fun (stats, ()) => stats
  parts stats := (stats, ())

/-- A body carries a value: it is the text of it, and is read as it if the doubles in it come back. -/
structure Codec.Carries {α : Type} (codec : Codec α) (body : List Char) (value : α)
    (doubles : List Float) : Prop where
  text : body = codec.write value
  reads : (∀ x ∈ doubles, Codec.float.Restores x) → codec.decode body = .ok value

/-- A double that comes back from its text is finite, since the others are written as no number. -/
theorem Codec.isFinite_of_restores {x : Float} (restores : Codec.float.Restores x) :
    x.isFinite = true := by
  -- A double that is not finite is written as a word, which no reader of doubles takes.
  cases finite : x.isFinite with
  | true => rfl
  | false =>
    have text : floatText x = "null".toList := by simp [floatText, finite]
    have refused : Codec.float.ofText (Codec.float.toText x) = .error .wrongKind := by
      rw [Codec.ofText, Codec.toText, String.toList_ofList]
      show Codec.float.decode (floatText x) = _
      rw [text]
      rfl
    cases refused.symm.trans restores

/-- A value that comes back with its doubles is carried by its text. -/
theorem Codec.carries_of_returns {α : Type} {codec : Codec α} {value : α} {doubles : List Float}
    {depth : Nat} (shallow : depth ≤ nestingLimit)
    (returns : (∀ x ∈ doubles, Codec.float.Returns 0 x) → codec.Returns depth value) :
    codec.Carries (codec.write value) value doubles where
  text := rfl
  reads restores := by
    -- The doubles come back, and with them the whole value.
    have doubles := returns fun x member =>
      Codec.float_returns (Codec.isFinite_of_restores (restores x member)) (restores x member)
    have back := doubles.ofText shallow
    rwa [Codec.ofText, Codec.toText, String.toList_ofList] at back

/-- An answer with points comes back when the points do. -/
theorem pointsRecord_returns {α : Type} {points : Codec α} {depth : Nat} (team : TeamId) {value : α}
    (returns : points.Returns depth value) :
    (pointsRecord points).codec.Returns (depth + 1) (team, value) := by
  -- Both fields come back, and their names differ.
  have number : (Field.required "team_id" .int64).Returns depth team :=
    Field.required_returns ((Codec.int64_returns team).deeper (Nat.zero_le depth))
  exact Record.returns ⟨number, Field.required_returns returns, trivial⟩
    (by decide : ["team_id", "points"].Nodup) rfl

/-- The answer with a ranking carries the round. -/
theorem Codec.carries_round (round : Round) :
    Codec.round.Carries (Codec.round.write round) round round.doubles :=
  Codec.carries_of_returns (by decide) Round.returns

/-- What is written of the points of a team is the record of both. -/
theorem writePoints_eq {α : Type} (points : Codec α) (team : TeamId) (value : α) :
    writePoints team (points.write value) = (pointsRecord points).codec.write (team, value) :=
  rfl

/-- The answer with the points of a team carries its number and its history. -/
theorem carries_history (team : TeamId) (history : PointHistory) :
    (pointsRecord .pointHistory).codec.Carries
      (writePoints team (Codec.pointHistory.write history)) (team, history) history.flatten := by
  rw [writePoints_eq]
  refine Codec.carries_of_returns (by decide : 3 ≤ nestingLimit) fun doubles => ?_
  -- Every double of the history stands in some row.
  have series : Codec.pointHistory.Returns 2 history :=
    Codec.list_returns fun row member => Codec.list_returns fun x inside =>
      doubles x (List.mem_flatten.mpr ⟨row, member, inside⟩)
  exact pointsRecord_returns team series

/-- The answer with the totals of a team carries its number and the totals. -/
theorem carries_totals (team : TeamId) (totals : List Float) :
    (pointsRecord (.list .float)).codec.Carries
      (writePoints team ((Codec.list .float).write totals)) (team, totals) totals := by
  rw [writePoints_eq]
  refine Codec.carries_of_returns (by decide : 2 ≤ nestingLimit) fun doubles => ?_
  exact pointsRecord_returns team (Codec.list_returns doubles)

/-- The answer with attack statistics carries them. -/
theorem carries_stats (stats : List (List ServiceStat)) :
    statsRecord.codec.Carries (writeObject [writeMember "stats" (Codec.statSeries.write stats)])
      stats [] := by
  -- The member is written as the record of one field writes it, and that field comes back.
  have written : writeObject [writeMember "stats" (Codec.statSeries.write stats)] =
      statsRecord.codec.write stats := rfl
  rw [written]
  refine Codec.carries_of_returns (by decide : 4 ≤ nestingLimit) fun _ => ?_
  have series : (Field.required "stats" .statSeries).Returns 3 stats :=
    Field.required_returns (Codec.list_returns fun _ _ =>
      Codec.list_returns fun stat _ => stat.returns)
  exact Record.returns ⟨series, trivial⟩ (by decide) rfl

end Scoreboard
