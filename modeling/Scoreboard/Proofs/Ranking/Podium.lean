import Mathlib.Data.List.Nodup
import Scoreboard.Podium
import Scoreboard.Proofs.Results

/-! The podium: which teams it shows, and for which scoreboards these are the best ranked ones. -/

namespace Scoreboard

/-- The place on the podium that a rank is shown as. -/
def Rank.shown (teams : TeamsDocument) (rank : Rank) : PodiumEntry :=
  -- A team that the directory lacks keeps its place, without a name.
  ⟨rank.teamId, (teams.get? rank.teamId).map Team.name, rank.points⟩

/-- No two ranks of a round have the same number. -/
def Round.DistinctRanks (round : Round) : Prop :=
  (round.scoreboard.map Rank.rank).Nodup

/-- No two ranks of a round are those of the same team. -/
def Round.DistinctTeams (round : Round) : Prop :=
  (round.scoreboard.map Rank.teamId).Nodup

/-- As many ranks as a podium holds, in the order of their numbers, with none left out below them. -/
structure Round.Best (round : Round) (chosen : List Rank) : Prop where
  full : chosen.length = min podiumSize round.scoreboard.length
  ascending : chosen.Pairwise fun better worse => better.rank < worse.rank
  ahead : ∃ others, (chosen ++ others).Perm round.scoreboard ∧
    ∀ best ∈ chosen, ∀ other ∈ others, best.rank ≤ other.rank

/-- A podium shows the best ranks of a round, with the names that the directory has for them. -/
def Round.ShowsBest (round : Round) (teams : TeamsDocument) (shown : List PodiumEntry) : Prop :=
  ∃ chosen, round.Best chosen ∧ shown = chosen.map (Rank.shown teams)

/-- The best ranks of a round come first in its scoreboard, in the order of their numbers. -/
structure Round.LeadersFirst (round : Round) : Prop where
  ascending : (round.scoreboard.take podiumSize).Pairwise fun better worse =>
    better.rank < worse.rank
  ahead : ∀ leader ∈ round.scoreboard.take podiumSize,
    ∀ other ∈ round.scoreboard.drop podiumSize, leader.rank < other.rank

instance (round : Round) : Decidable round.DistinctRanks :=
  inferInstanceAs (Decidable (List.Nodup _))

instance (round : Round) : Decidable round.DistinctTeams :=
  inferInstanceAs (Decidable (List.Nodup _))

instance (round : Round) : Decidable round.LeadersFirst :=
  decidable_of_iff (_ ∧ _) ⟨fun both => ⟨both.1, both.2⟩, fun leaders => ⟨leaders.1, leaders.2⟩⟩

section Podium

variable {round : Round} {teams : TeamsDocument} {chosen : List Rank}

/-- Ranks of a round that differ have numbers that differ. -/
theorem Round.DistinctRanks.eq_of_rank (distinct : round.DistinctRanks) {first second : Rank}
    (one : first ∈ round.scoreboard) (two : second ∈ round.scoreboard)
    (same : first.rank = second.rank) : first = second :=
  List.inj_on_of_nodup_map distinct one two same

/-- The ranks of a round in the order of their numbers. -/
def Round.ranking (round : Round) : List Rank :=
  round.scoreboard.mergeSort fun better worse => better.rank ≤ worse.rank

/-- Sorting leaves all ranks. -/
theorem Round.ranking_perm (round : Round) : round.ranking.Perm round.scoreboard :=
  List.mergeSort_perm _ _

/-- Sorted ranks have ascending numbers. -/
theorem pairwise_sorted (ranks : List Rank) :
    (ranks.mergeSort fun better worse => better.rank ≤ worse.rank).Pairwise
      fun better worse => better.rank ≤ worse.rank := by
  -- The numbers are compared transitively, and any two of them can be compared.
  have sorted := @List.pairwise_mergeSort Rank (fun better worse => better.rank ≤ worse.rank)
    (fun first second third below further => by
      simp only [decide_eq_true_eq] at below further ⊢
      exact UInt32.le_trans below further)
    (fun first second => by
      simp only [Bool.or_eq_true, decide_eq_true_eq]
      exact UInt32.le_total first.rank second.rank) ranks
  simpa using sorted

/-- With distinct numbers there is one choice of best ranks, which is the start of their order. -/
theorem Round.best_iff (distinct : round.DistinctRanks) :
    round.Best chosen ↔ chosen = round.ranking.take podiumSize := by
  have size : round.ranking.length = round.scoreboard.length := round.ranking_perm.length_eq
  constructor
  · intro best
    obtain ⟨others, all, ahead⟩ := best.ahead
    -- The chosen ranks and the sorted others behind them are all ranks, sorted.
    have behind := List.mergeSort_perm others fun better worse => better.rank ≤ worse.rank
    have sorted : (chosen ++ others.mergeSort fun better worse => better.rank ≤ worse.rank).Pairwise
        fun better worse => better.rank ≤ worse.rank := by
      refine List.pairwise_append.mpr ⟨best.ascending.imp UInt32.le_of_lt, pairwise_sorted others, ?_⟩
      intro leader own other left
      exact ahead leader own other (behind.mem_iff.mp left)
    have perm := (behind.append_left chosen).trans all
    have same := List.Perm.eq_of_pairwise (fun first second one two below above =>
      distinct.eq_of_rank (perm.mem_iff.mp one) (round.ranking_perm.mem_iff.mp two)
        (UInt32.le_antisymm below above)) sorted (pairwise_sorted round.scoreboard)
      (perm.trans round.ranking_perm.symm)
    have first : chosen = round.ranking.take chosen.length := by
      rw [← same]
      exact (List.take_left' rfl).symm
    rw [first, best.full, List.take_eq_take_iff]
    omega
  · rintro rfl
    have split := List.take_append_drop podiumSize round.ranking
    have sorted : round.ranking.Pairwise fun better worse => better.rank ≤ worse.rank :=
      pairwise_sorted round.scoreboard
    rw [← split] at sorted
    have parts := List.pairwise_append.mp sorted
    refine ⟨by rw [List.length_take, size], ?_, round.ranking.drop podiumSize, ?_, parts.2.2⟩
    swap
    · rw [split]
      exact round.ranking_perm
    -- Sorted numbers ascend strictly, since no two of them are the same.
    have apart : (round.ranking.map Rank.rank).Nodup :=
      (round.ranking_perm.map Rank.rank).nodup_iff.mpr distinct
    have numbers : (round.ranking.take podiumSize).Pairwise
        fun better worse => better.rank ≠ worse.rank :=
      (List.pairwise_map.mp apart).sublist (List.take_sublist _ _)
    exact (parts.1.and numbers).imp fun both => UInt32.lt_of_le_of_ne both.1 both.2

/-- A scoreboard starts with the best ranks exactly if these are the ones that stand first. -/
theorem Round.leadersFirst_iff (distinct : round.DistinctRanks) :
    round.LeadersFirst ↔ round.Best (round.scoreboard.take podiumSize) := by
  have split := List.take_append_drop podiumSize round.scoreboard
  constructor
  · intro leaders
    refine ⟨List.length_take, leaders.ascending, round.scoreboard.drop podiumSize, ?_, ?_⟩
    · rw [split]
    · exact fun leader first other later => UInt32.le_of_lt (leaders.ahead leader first other later)
  · intro best
    obtain ⟨others, all, ahead⟩ := best.ahead
    refine ⟨best.ascending, fun leader first other later => ?_⟩
    -- The ranks that are left out are those that stand further behind.
    have same : others.Perm (round.scoreboard.drop podiumSize) := by
      rw [← List.perm_append_left_iff, split]
      exact all
    have below := ahead leader first other (same.mem_iff.mpr later)
    refine UInt32.lt_of_le_of_ne below fun number => ?_
    have apart : (round.scoreboard.take podiumSize ++ round.scoreboard.drop podiumSize).Nodup :=
      split.symm ▸ List.Nodup.of_map _ distinct
    have one := distinct.eq_of_rank (List.mem_of_mem_take first) (List.mem_of_mem_drop later) number
    exact (List.nodup_append.mp apart).2.2 leader first other later one

/-- The podium shows the first ranks of the scoreboard. -/
theorem podium_eq (round : Round) (teams : TeamsDocument) :
    podium round teams = (round.scoreboard.take podiumSize).map (Rank.shown teams) :=
  rfl

/-- A podium that starts with the best ranks shows them. -/
theorem Round.LeadersFirst.showsBest (distinct : round.DistinctRanks)
    (leaders : round.LeadersFirst) : round.ShowsBest teams (podium round teams) :=
  ⟨_, (leadersFirst_iff distinct).mp leaders, podium_eq round teams⟩

/-- With distinct teams, a podium shows the best ranks only where they come first. -/
theorem Round.ShowsBest.leadersFirst (distinct : round.DistinctRanks) (apart : round.DistinctTeams)
    (shows : round.ShowsBest teams (podium round teams)) : round.LeadersFirst := by
  obtain ⟨chosen, best, same⟩ := shows
  obtain ⟨others, all, _⟩ := best.ahead
  rw [podium_eq] at same
  -- Each place shows its team, which tells the rank.
  have first : round.scoreboard.take podiumSize = chosen := by
    have size := congrArg List.length same
    rw [List.length_map, List.length_map] at size
    refine List.ext_getElem size fun place inside among => ?_
    have places := congrArg (fun shown => shown[place]?.map PodiumEntry.teamId) same
    simp only [List.getElem?_map, List.getElem?_eq_getElem inside,
      List.getElem?_eq_getElem among, Option.map_some, Option.some.injEq] at places
    have one := List.mem_of_mem_take (List.getElem_mem inside)
    have two := all.mem_iff.mp (List.mem_append_left others (List.getElem_mem among))
    exact List.inj_on_of_nodup_map apart one two places
  rw [leadersFirst_iff distinct, first]
  exact best

/--
The podium shows what stands first in a scoreboard, which need not be the best ranks.

There is exactly one choice of best ranks, and the podium shows them wherever the scoreboard starts
with them. Where it does not and all ranks are of different teams, the podium shows others.
-/
theorem podium_shows_first_ranks (round : Round) (teams : TeamsDocument)
    (distinct : round.DistinctRanks) :
    (podium round teams).length = min podiumSize round.scoreboard.length ∧
      (∀ place < podiumSize, (podium round teams)[place]? =
        round.scoreboard[place]?.map (Rank.shown teams)) ∧
      (∃ best, round.Best best ∧ ∀ other, round.Best other → other = best) ∧
      (round.LeadersFirst → round.ShowsBest teams (podium round teams)) ∧
      (round.DistinctTeams →
        (round.ShowsBest teams (podium round teams) ↔ round.LeadersFirst)) := by
  -- The choice of best ranks is that of the sorted ones, and what stands first is compared with it.
  have showsBest : round.LeadersFirst → round.ShowsBest teams (podium round teams) :=
    fun leaders => leaders.showsBest distinct
  refine ⟨?_, fun place inside => ?_, ?_, showsBest, fun apart =>
    ⟨fun shows => shows.leadersFirst distinct apart, showsBest⟩⟩
  · rw [podium_eq, List.length_map, List.length_take]
  · rw [podium_eq, List.getElem?_map, List.getElem?_take_of_lt inside]
  · exact ⟨_, (Round.best_iff distinct).mpr rfl, fun other best =>
      (Round.best_iff distinct).mp best⟩

end Podium

/-- The text of a rank without points or results. -/
def placedText (team place : Nat) : List Char :=
  writeObject
    [writeMember "team_id" (Nat.toDigits 10 team), writeMember "rank" (Nat.toDigits 10 place),
      writeMember "points" ['0'], writeMember "o" ['0'], writeMember "d" ['0'],
      writeMember "s" ['0'], writeMember "services" ['[', ']']]

/-- The text of a round of four teams, whose winner stands last. -/
def lateWinnerText : List Char :=
  writeObject
    [writeMember "tick" ['9'], writeMember "services" ['[', ']'],
      writeMember "scoreboard" ('[' :: (commaSeparated
        [placedText 1 2, placedText 2 3, placedText 3 4, placedText 4 1] ++ [']']))]

/-- A round of four teams whose winner stands last. -/
def lateWinner : Round :=
  (Codec.round.decode lateWinnerText).toOption.getD ⟨0, [], []⟩

/-- The text of the round is decoded to it. -/
theorem decode_lateWinnerText : Codec.round.decode lateWinnerText = .ok lateWinner :=
  eq_ok_getD (by decide +kernel) _

/-- The podium leaves the winner out who stands last in the scoreboard. -/
theorem late_winner_left_out : ∃ text round, Codec.round.decode text = .ok round ∧
    round.DistinctRanks ∧ ∀ teams, ¬ round.ShowsBest teams (podium round teams) := by
  have distinct : lateWinner.DistinctRanks := by decide +kernel
  have apart : lateWinner.DistinctTeams := by decide +kernel
  -- The last rank of the scoreboard has the smallest number.
  have behind : ¬ lateWinner.LeadersFirst := by decide +kernel
  exact ⟨lateWinnerText, lateWinner, decode_lateWinnerText, distinct,
    fun teams shows => behind (shows.leadersFirst distinct apart)⟩

/-- The same round with the winner in front of the others. -/
def earlyWinner : Round :=
  { lateWinner with
    scoreboard := lateWinner.scoreboard.drop podiumSize ++ lateWinner.scoreboard.take podiumSize }

/-- A directory that has none but the winner. -/
def winnersOnly : TeamsDocument :=
  Table.empty.insert 4 ⟨4, "Winners", "10.0.4.2", "", "", none⟩

/-- One order of the ranks puts another team first, and the other one shows the best ranks. -/
theorem late_winner_podium :
    (lateWinner.DistinctRanks ∧ (podium lateWinner Table.empty).length = 3 ∧
      (podium lateWinner Table.empty)[0]?.map PodiumEntry.teamId = some 1 ∧
      ¬ lateWinner.ShowsBest Table.empty (podium lateWinner Table.empty)) ∧
    (earlyWinner.DistinctRanks ∧ (podium earlyWinner winnersOnly).length = 3 ∧
      (podium earlyWinner winnersOnly)[0]?.map PodiumEntry.name = some (some "Winners") ∧
      (podium earlyWinner winnersOnly)[1]?.map PodiumEntry.name = some none ∧
      earlyWinner.ShowsBest winnersOnly (podium earlyWinner winnersOnly)) := by
  constructor
  · have distinct : lateWinner.DistinctRanks := by decide +kernel
    obtain ⟨size, places, _, _, shows⟩ := podium_shows_first_ranks lateWinner Table.empty distinct
    have three : min podiumSize lateWinner.scoreboard.length = 3 := by decide +kernel
    have first : lateWinner.scoreboard[0]?.map Rank.teamId = some 1 := by decide +kernel
    refine ⟨distinct, size.trans three, ?_, fun best => ?_⟩
    · rw [places 0 (by decide), Option.map_map]
      exact first
    · exact absurd ((shows (by decide +kernel)).mp best) (by decide +kernel)
  · have distinct : earlyWinner.DistinctRanks := by decide +kernel
    obtain ⟨size, places, _, shows, _⟩ := podium_shows_first_ranks earlyWinner winnersOnly distinct
    have three : min podiumSize earlyWinner.scoreboard.length = 3 := by decide +kernel
    -- The directory has the team of the first rank, and lacks that of the second one.
    have known : earlyWinner.scoreboard[0]?.map (fun rank =>
        (winnersOnly.get? rank.teamId).map Team.name) = some (some "Winners") := by decide +kernel
    have lacked : earlyWinner.scoreboard[1]?.map (fun rank =>
        (winnersOnly.get? rank.teamId).map Team.name) = some none := by decide +kernel
    refine ⟨distinct, size.trans three, ?_, ?_, shows (by decide +kernel)⟩
    · rw [places 0 (by decide), Option.map_map]
      exact known
    · rw [places 1 (by decide), Option.map_map]
      exact lacked

end Scoreboard
