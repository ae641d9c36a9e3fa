import Mathlib.Algebra.BigOperators.Group.List.Basic
import Scoreboard.Totals

/-! Totals: which points of a history they count, whatever the lengths of its series. -/

namespace Scoreboard

section Sums

variable {α : Type} [AddCommMonoid α] {history other : List (List α)} {totals : List α}

/-- The points of all services at a tick, where a missing point counts for nothing. -/
def pointsAt (history : List (List α)) (tick : Nat) : α :=
  (history.map fun series => series.getD tick 0).sum

/-- One total for every tick at which a service has a point, each the sum of all points there. -/
structure AreTotals (history : List (List α)) (totals : List α) : Prop where
  ticks : ∀ tick, tick < totals.length ↔ ∃ series ∈ history, tick < series.length
  sums : ∀ tick < totals.length, totals[tick]? = some (pointsAt history tick)

/-- No series goes on when the first one has ended. -/
def LongestFirst (history : List (List α)) : Prop :=
  ∀ series ∈ history, series.length ≤ (history.headD []).length

/-- A series of a certain length: what is longer is cut off, and what is missing is filled in. -/
def fitted {β : Type} (length : Nat) (missing : β) (series : List β) : List β :=
  series.take length ++ List.replicate (length - series.length) missing

/-- The points at a tick are the same in every order of the services. -/
theorem pointsAt_perm (same : other.Perm history) (tick : Nat) :
    pointsAt other tick = pointsAt history tick :=
  (same.map _).sum_eq

/-- The totals of all recorded ticks do not depend on the order of the services. -/
theorem AreTotals.perm (recorded : AreTotals history totals) (same : other.Perm history) :
    AreTotals other totals := by
  refine ⟨fun tick => (recorded.ticks tick).trans ?_, fun tick inside => ?_⟩
  · exact exists_congr fun series => and_congr_left' same.mem_iff.symm
  · rw [recorded.sums tick inside, pointsAt_perm same]

/-- There is a total for each tick of the first series. -/
theorem length_sumSeries {β : Type} [Add β] (start missing : β) (history : List (List β)) :
    (sumSeries start missing history).length = (history.headD []).length := by
  rw [sumSeries, List.length_map, List.length_range]

/-- A series that was fitted to a length has the same points at the ticks inside. -/
theorem getD_fitted {β : Type} {length tick : Nat} (inside : tick < length) (missing : β)
    (series : List β) : (fitted length missing series).getD tick missing =
      series.getD tick missing := by
  -- A tick inside is one that was kept, or one that the series did not reach.
  rw [fitted, List.getD_eq_getElem?_getD, List.getD_eq_getElem?_getD]
  rcases Nat.lt_or_ge tick series.length with there | beyond
  · have kept : tick < (series.take length).length := by
      rw [List.length_take]
      omega
    rw [List.getElem?_append_left kept, List.getElem?_take_of_lt inside]
  · -- The tick is one of those that are filled in.
    have filled : tick - (series.take length).length < length - series.length := by
      rw [List.length_take]
      omega
    rw [List.getElem?_append_right (by rw [List.length_take]; omega),
      List.getElem?_replicate_of_lt filled, List.getElem?_eq_none beyond]
    rfl

/-- The totals are those of the history in which every series is as long as the first one. -/
theorem sumSeries_fitted {β : Type} [Add β] (start missing : β) (history : List (List β)) :
    sumSeries start missing (history.map (fitted (history.headD []).length missing)) =
      sumSeries start missing history := by
  have first : ((history.map (fitted (history.headD []).length missing)).headD []).length =
      (history.headD []).length := by
    cases history with
    | nil => rfl
    | cons series others => simp [fitted]
  rw [sumSeries, sumSeries, first]
  -- Only points at ticks of the first series are read, and those are the same.
  refine List.map_congr_left fun tick inside => ?_
  rw [List.map_map]
  exact congrArg (List.foldl (· + ·) start)
    (List.map_congr_left fun series _ => getD_fitted (List.mem_range.mp inside) missing series)

/-- Over exact numbers, each total is the sum of all points at its tick. -/
theorem sumSeries_eq (history : List (List α)) :
    sumSeries 0 0 history = (List.range (history.headD []).length).map (pointsAt history) := by
  refine List.map_congr_left fun tick _ => ?_
  rw [pointsAt, List.sum_eq_foldl]

/-- The total of a tick of the first series is what all series have there. -/
theorem getElem?_sumSeries {tick : Nat} (inside : tick < (history.headD []).length) :
    (sumSeries 0 0 history)[tick]? = some (pointsAt history tick) := by
  rw [sumSeries_eq, List.getElem?_map, List.getElem?_range inside]
  rfl

/-- The totals are all there exactly when no series is longer than the first one. -/
theorem areTotals_sumSeries : AreTotals history (sumSeries 0 0 history) ↔ LongestFirst history := by
  constructor
  · intro totals series member
    -- A tick that a longer series has behind the end of the first one would have a total.
    by_contra longer
    have recorded := (totals.ticks _).mpr ⟨series, member, Nat.lt_of_not_le longer⟩
    rw [length_sumSeries] at recorded
    exact Nat.lt_irrefl _ recorded
  · intro longest
    have length : (sumSeries 0 0 history).length = (history.headD []).length :=
      length_sumSeries 0 0 history
    refine ⟨fun tick => ?_, fun tick inside => getElem?_sumSeries (length ▸ inside)⟩
    rw [length]
    constructor
    · intro inside
      cases history with
      | nil => cases inside
      | cons first others => exact ⟨first, List.mem_cons_self, inside⟩
    · rintro ⟨series, member, inside⟩
      exact Nat.lt_of_lt_of_le inside (longest series member)

/-- Another order of the services changes the totals only by another series that comes first. -/
theorem sumSeries_perm (same : other.Perm history) :
    sumSeries 0 0 other = sumSeries 0 0 history ↔
      (other.headD []).length = (history.headD []).length := by
  -- Other totals are as many as their own first series has ticks, so the lengths decide.
  constructor
  · intro totals
    have lengths := congrArg List.length totals
    rwa [length_sumSeries, length_sumSeries] at lengths
  · intro lengths
    rw [sumSeries_eq, sumSeries_eq, lengths]
    exact List.map_congr_left fun tick _ => pointsAt_perm same tick

/-- The points of a series are those at the first ticks, and those behind them. -/
theorem sum_eq_range_add_drop (series : List α) (ticks : Nat) :
    series.sum = ((List.range ticks).map fun tick => series.getD tick 0).sum +
      (series.drop ticks).sum := by
  -- The induction is on the series, with the ticks moved on by one.
  induction series generalizing ticks with
  | nil => simp
  | cons point series ih =>
    cases ticks with
    | zero => simp
    | succ ticks =>
      rw [List.range_succ_eq_map, List.map_cons, List.map_map, List.sum_cons, List.sum_cons,
        List.drop_succ_cons, add_assoc, ih ticks]
      rfl

/-- All points of a history are those at the first ticks, and those behind them in each series. -/
theorem sum_sum_eq (history : List (List α)) (ticks : Nat) :
    (history.map List.sum).sum = ((List.range ticks).map (pointsAt history)).sum +
      (history.map fun series => (series.drop ticks).sum).sum := by
  -- The induction is on the series of the history.
  induction history with
  | nil =>
    have nothing : pointsAt ([] : List (List α)) = fun _ => 0 := rfl
    simp [nothing]
  | cons series history ih =>
    have split : pointsAt (series :: history) =
        fun tick => series.getD tick 0 + pointsAt history tick := rfl
    rw [List.map_cons, List.sum_cons, List.map_cons, List.sum_cons, split, List.sum_map_add, ih,
      sum_eq_range_add_drop series ticks]
    exact add_add_add_comm _ _ _ _

end Sums

/--
Totals cover the ticks of the first series, and leave out what other series have behind its end.

There is one total for each tick of the first series, as if every series were cut or filled up with
zeros to that length. Over exact numbers it is the sum of all points at the tick, and the totals add
up to all points but those behind the end of the first series. They are the totals of all recorded
ticks exactly when no series is longer than the first one, and the order of the services matters only
as far as the length of the first one does.
-/
theorem totals_cover_first_series {α : Type} [AddCommMonoid α] (history : List (List α)) :
    (∀ points : PointHistory, (sumServices points).length = (points.headD []).length ∧
        sumServices (points.map (fitted (points.headD []).length 0.0)) = sumServices points) ∧
      (sumSeries 0 0 history).length = (history.headD []).length ∧
      (∀ tick < (history.headD []).length,
        (sumSeries 0 0 history)[tick]? = some (pointsAt history tick)) ∧
      (AreTotals history (sumSeries 0 0 history) ↔ LongestFirst history) ∧
      (∀ other : List (List α), other.Perm history →
        (sumSeries 0 0 other = sumSeries 0 0 history ↔
          (other.headD []).length = (history.headD []).length)) ∧
      (history.map List.sum).sum = (sumSeries 0 0 history).sum +
        (history.map fun series => (series.drop (history.headD []).length).sum).sum := by
  -- Each part is a lemma on sums over any start and missing point.
  refine ⟨fun points => ⟨length_sumSeries _ _ points, sumSeries_fitted _ _ points⟩,
    length_sumSeries _ _ history, fun _ inside => getElem?_sumSeries inside, areTotals_sumSeries,
    fun _ => sumSeries_perm, ?_⟩
  rw [sumSeries_eq]
  exact sum_sum_eq history _

/-- A first series that ends early hides a tick of the second one, which the other order shows. -/
theorem short_first_series_hides_tick :
    sumSeries 0 0 [[1], [2, 3]] = [3] ∧ AreTotals [[1], [2, 3]] [3, 3] ∧
      ¬ AreTotals [[1], [2, 3]] (sumSeries 0 0 [[1], [2, 3]]) ∧
      [[2, 3], [1]].Perm [[1], [2, 3]] ∧ sumSeries 0 0 [[2, 3], [1]] = [3, 3] ∧
      (sumServices [[1.0], [2.0, 3.0]]).length = 1 := by
  -- The criterion refuses the one order, whose first series is short, and admits the other.
  have swapped : [[2, 3], [1]].Perm [[1], [2, 3]] := .swap _ _ _
  have hidden : ¬ LongestFirst [[1], [2, 3]] := by unfold LongestFirst; decide
  have shown : AreTotals [[2, 3], [1]] [3, 3] :=
    areTotals_sumSeries.mpr (by unfold LongestFirst; decide)
  exact ⟨rfl, shown.perm swapped.symm, mt areTotals_sumSeries.mp hidden, swapped, rfl, rfl⟩

end Scoreboard
