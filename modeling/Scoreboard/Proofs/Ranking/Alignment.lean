import Mathlib.Data.List.Induction
import Scoreboard.Proofs.Document.BannedTeams
import Scoreboard.Proofs.Ranking.Growth
import Scoreboard.Proofs.Results

/-! Alignment: the series of a history cover the same ticks, as long as rounds have a result for each. -/

namespace Scoreboard

/-- All series of a history cover the same ticks. -/
def Rectangular (history : PointHistory) : Prop :=
  ∀ series ∈ history, ∀ other ∈ history, series.length = other.length

instance (history : PointHistory) : Decidable (Rectangular history) :=
  inferInstanceAs (Decidable (∀ series ∈ history, ∀ other ∈ history, series.length = other.length))

/-- No series of a history covers more ticks than the first one. -/
def Topped (history : PointHistory) : Prop :=
  ∀ series ∈ history, ∀ covered, HistoryCache.firstLength history = some covered →
    series.length ≤ covered

/-- A rank has a result for every series of a history, or none for any. -/
def Rank.Fills (rank : Rank) (history : PointHistory) : Prop :=
  rank.services = [] ∨ history.length ≤ rank.services.length

/-- Each series with a result has the total of that at its end, and the others are as before. -/
def Rank.Lengthens (rank : Rank) (history longer : PointHistory) : Prop :=
  longer.length = history.length ∧
    ∀ (place : Nat) (series : List Float), history[place]? = some series →
      longer[place]? = some (match rank.services[place]? with
        | some result => series ++ [result.total]
        | none => series)

/-- A round is the one behind the last tick of a team's history, and lists the team. -/
def Round.Continues (round : Round) (team : TeamId) (history : PointHistory) : Prop :=
  (∃ covered, HistoryCache.firstLength history = some covered ∧
    (covered : Int) = round.tick.toInt) ∧ ∃ rank, round.rankOf? team = some rank

/-- What can be done to the histories that are kept. -/
inductive HistoryOperation
  | put (team : TeamId) (history : PointHistory)
  | extend (round : Round)
  | invalidate (team : TeamId)
  | invalidateAll

/-- The cache after an operation. -/
def HistoryCache.operate (cache : HistoryCache) : HistoryOperation → HistoryCache
  | .put team history => cache.put team history
  | .extend round => cache.extend round
  | .invalidate team => cache.invalidate team
  | .invalidateAll => .initial

/-- The cache after operations on an empty one. -/
def HistoryCache.after (operations : List HistoryOperation) : HistoryCache :=
  operations.foldl operate initial

/-- What became of a team's history: the one that was put, and the rounds that carried it on. -/
structure Lineage where
  base : PointHistory
  rounds : List Round

namespace Lineage

/-- The history that rounds have made of the one that was put. -/
def history (team : TeamId) (lineage : Lineage) : PointHistory :=
  lineage.rounds.foldl
    (fun history round => (HistoryCache.extension? round team history).getD history) lineage.base

/-- The lineage after another round, which carries the history on or leaves it. -/
def extend (team : TeamId) (round : Round) (lineage : Lineage) : Lineage :=
  if (HistoryCache.extension? round team (lineage.history team)).isSome then
    { lineage with rounds := lineage.rounds ++ [round] }
  else lineage

/-- The lineage of a team's history after an operation, none when no history is kept. -/
def step (team : TeamId) (lineage : Option Lineage) : HistoryOperation → Option Lineage
  | .put other history => if other = team ∧ history ≠ [] then some ⟨history, []⟩ else lineage
  | .extend round => lineage.map (extend team round)
  | .invalidate other => if other = team then none else lineage
  | .invalidateAll => none

/-- The lineage of a team's history after operations on an empty cache. -/
def after (team : TeamId) (operations : List HistoryOperation) : Option Lineage :=
  operations.foldl (step team) none

/-- Every rank that carried the history on had a result for each of its series, or for none. -/
def Filled (team : TeamId) (lineage : Lineage) : Prop :=
  ∀ round ∈ lineage.rounds, ∀ rank, round.rankOf? team = some rank → rank.Fills lineage.base

/-- Each result stands in the history under the tick of its round. -/
def Dated (team : TeamId) (lineage : Lineage) : Prop :=
  ∀ round ∈ lineage.rounds, ∀ rank, round.rankOf? team = some rank →
    ∀ (place : Nat) (series : List Float) (result : ServiceResult),
      (lineage.history team)[place]? = some series → rank.services[place]? = some result →
        series[round.tick.toInt.toNat]? = some result.total

end Lineage

/-- What a round does to the histories that are kept. -/
structure HistoryCache.Grows (cache : HistoryCache) (round : Round) : Prop where
  absent : ∀ team, cache.get? team = none → (cache.extend round).get? team = none
  spared : ∀ team history, cache.get? team = some history → ¬ round.Continues team history →
    (cache.extend round).get? team = some history
  carried : ∀ team history rank, cache.get? team = some history → round.Continues team history →
    round.rankOf? team = some rank → ∃ longer, (cache.extend round).get? team = some longer ∧
      rank.Lengthens history longer ∧ (longer = history ↔ rank.services = [])
  /-- The teams that are named are the ones with a history that the round continues. -/
  named : ∀ team, team ∈ cache.extended round ↔
    ∃ history, cache.get? team = some history ∧ round.Continues team history
  once : (cache.extended round).Nodup

section Shape

variable {history longer : PointHistory} {rank : Rank} {covered : Nat}

/-- A history in which no series is longer than the first is rectangular if none is shorter. -/
theorem Topped.rectangular_iff (topped : Topped history)
    (first : HistoryCache.firstLength history = some covered) :
    Rectangular history ↔ ∀ series ∈ history, covered ≤ series.length := by
  obtain ⟨longest, head, rfl⟩ := Option.map_eq_some_iff.mp first
  constructor
  · intro rectangular series member
    exact Nat.le_of_eq (rectangular longest (List.mem_of_mem_head? head) series member)
  · intro least series member other held
    -- Both series are squeezed between the first one and itself.
    have above := topped series member _ first
    have aboveToo := topped other held _ first
    have below := least series member
    have belowToo := least other held
    omega

/-- In a rectangular history no series is longer than the first one. -/
theorem Rectangular.topped (rectangular : Rectangular history) : Topped history := by
  intro series member covered first
  obtain ⟨longest, head, rfl⟩ := Option.map_eq_some_iff.mp first
  exact Nat.le_of_eq (rectangular series member longest (List.mem_of_mem_head? head))

namespace Rank.Lengthens

variable (lengthens : rank.Lengthens history longer)
include lengthens

/-- A series becomes longer by one if there is a result for it, and not otherwise. -/
theorem length_at {place : Nat} {series : List Float} (held : history[place]? = some series) :
    ∃ more, longer[place]? = some more ∧
      more.length = series.length + if place < rank.services.length then 1 else 0 := by
  -- A result in the place of the series is one more point for it.
  refine ⟨_, lengthens.2 place series held, ?_⟩
  by_cases given : place < rank.services.length
  · simp [given]
  · simp [given]

/-- Every series of the longer history comes from one of the other. -/
theorem of_mem {more : List Float} (member : more ∈ longer) :
    ∃ place series, history[place]? = some series ∧ series ∈ history ∧
      more.length = series.length + if place < rank.services.length then 1 else 0 := by
  obtain ⟨place, there⟩ := List.mem_iff_getElem?.mp member
  -- There are as many series as before, so the place had one.
  have inside : place < history.length := by
    rw [← lengthens.1]
    exact (List.getElem?_eq_some_iff.mp there).1
  have held := List.getElem?_eq_getElem inside
  obtain ⟨same, found, length⟩ := lengthens.length_at held
  rw [there] at found
  cases found
  exact ⟨place, _, held, List.getElem_mem inside, length⟩

/-- The first series becomes longer as soon as there is any result. -/
theorem firstLength (first : HistoryCache.firstLength history = some covered) :
    HistoryCache.firstLength longer =
      some (covered + if rank.services = [] then 0 else 1) := by
  obtain ⟨series, head, rfl⟩ := Option.map_eq_some_iff.mp first
  -- If there is any result, there is one for the first series.
  rw [List.head?_eq_getElem?] at head
  obtain ⟨more, there, length⟩ := lengthens.length_at head
  rw [HistoryCache.firstLength, List.head?_eq_getElem?, there, Option.map_some, length]
  cases rank.services <;> simp

/-- A history whose first series is a longest one stays so with the totals of a rank. -/
theorem topped (top : Topped history) : Topped longer := by
  intro more member covered first
  obtain ⟨place, series, held, inside, length⟩ := lengthens.of_mem member
  -- The history is not empty, so it has a first series as well.
  obtain ⟨former, before⟩ : ∃ former, HistoryCache.firstLength history = some former := by
    cases history with
    | nil => cases inside
    | cons head rest => exact ⟨_, rfl⟩
  have short := top series inside _ before
  rw [lengthens.firstLength before] at first
  cases first
  -- A series gets longer only where there are results, and then the first one does as well.
  cases results : rank.services with
  | nil => simp [results] at length ⊢; omega
  | cons result others => simp only [results, reduceCtorEq, if_false] at length ⊢; split at length <;> omega

/-- A history stays rectangular if the rank fills it, and becomes ragged otherwise for good. -/
theorem rectangular_iff (top : Topped history) :
    Rectangular longer ↔ Rectangular history ∧ rank.Fills history := by
  cases history with
  | nil =>
    have empty : longer = [] := List.length_eq_zero_iff.mp lengthens.1
    simp [empty, Rectangular, Rank.Fills]
  | cons head rest =>
    have first : HistoryCache.firstLength (head :: rest) = some head.length := rfl
    rw [(lengthens.topped top).rectangular_iff (lengthens.firstLength first),
      top.rectangular_iff first]
    by_cases none : rank.services = []
    · -- Without a result nothing changes.
      have same : longer = head :: rest := by
        refine List.ext_getElem? fun place => ?_
        cases held : (head :: rest)[place]? with
        | none => exact List.getElem?_eq_none (lengthens.1 ▸ List.getElem?_eq_none_iff.mp held)
        | some series => simpa [none] using lengthens.2 place series held
      simp [same, none, Rank.Fills]
    · simp only [none, if_false, Rank.Fills, false_or]
      constructor
      · intro least
        -- Every place has a result, since its series has caught up with the first one.
        have grown : ∀ place series, (head :: rest)[place]? = some series →
            place < rank.services.length ∧ head.length ≤ series.length := by
          intro place series held
          obtain ⟨more, there, length⟩ := lengthens.length_at held
          have long := least more (List.mem_of_getElem? there)
          have short := top series (List.mem_of_getElem? held) _ first
          split at length
          · rename_i given
            exact ⟨given, by omega⟩
          · omega
        refine ⟨fun series member => ?_, ?_⟩
        · obtain ⟨place, held⟩ := List.mem_iff_getElem?.mp member
          exact (grown place series held).2
        · -- The last place is one of them.
          have last : rest.length < (head :: rest).length := Nat.lt_succ_self _
          exact (grown _ _ (List.getElem?_eq_getElem last)).1
      · rintro ⟨least, enough⟩ more member
        -- Every place has a result, so each series is longer by one, as the first one is.
        obtain ⟨place, series, held, inside, length⟩ := lengthens.of_mem member
        have given : place < rank.services.length :=
          Nat.lt_of_lt_of_le (List.getElem?_eq_some_iff.mp held).1 enough
        have long := least series inside
        rw [if_pos given] at length
        omega

/-- A point of the history stays where it is. -/
theorem point_kept {place index : Nat} {series more : List Float} {point : Float}
    (held : history[place]? = some series) (there : longer[place]? = some more)
    (found : series[index]? = some point) : more[index]? = some point := by
  -- A point is put behind those that are there, if one is put at all.
  rw [lengthens.2 place series held] at there
  cases there
  have inside : index < series.length := (List.getElem?_eq_some_iff.mp found).1
  split
  · rw [List.getElem?_append_left inside]
    exact found
  · exact found

end Rank.Lengthens

end Shape

section Extension

variable {round : Round} {team : TeamId} {history longer : PointHistory} {rank : Rank}

namespace HistoryCache

/-- The totals of a rank lengthen a history. -/
theorem lengthens_appendTotals (rank : Rank) (history : PointHistory) :
    rank.Lengthens history (appendTotals history rank.services) := by
  -- Both lists are compared place by place.
  have pointwise := getElem?_appendTotals history rank.services
  constructor
  · -- The lengthened list has a series at the same places.
    refine Nat.le_antisymm (Nat.le_of_not_lt fun more => ?_) (Nat.le_of_not_lt fun fewer => ?_)
    · have there := pointwise history.length
      rw [List.getElem?_eq_getElem more, List.getElem?_eq_none (Nat.le_refl _)] at there
      cases there
    · have there := pointwise (appendTotals history rank.services).length
      rw [List.getElem?_eq_getElem fewer, List.getElem?_eq_none (Nat.le_refl _)] at there
      cases there
  · intro place series held
    rw [pointwise, held]
    rfl

/-- Totals change a history with any series, unless there are none. -/
theorem appendTotals_eq_self_iff (full : history ≠ []) (results : List ServiceResult) :
    appendTotals history results = history ↔ results = [] := by
  cases history with
  | nil => exact absurd rfl full
  | cons series rest => cases results <;> simp [appendTotals]

/-- A round that continues a history carries it on by the totals of the team. -/
theorem extension?_of_continues (continues : round.Continues team history)
    (ranked : round.rankOf? team = some rank) :
    extension? round team history = some (appendTotals history rank.services) := by
  obtain ⟨⟨covered, first, tick⟩, _⟩ := continues
  -- The tick is the length of a series, so it is not negative.
  have counted : 0 ≤ round.tick := by
    rw [Int64.le_iff_toInt_le, ← tick]
    exact Int.natCast_nonneg covered
  have next : firstLength history = some round.tick.toInt.toNat := by
    rw [first, ← tick, Int.toNat_natCast]
  rw [extension?, if_pos ⟨next, counted⟩, ranked, Option.map_some]

/-- A history is carried on exactly by the rounds that continue it. -/
theorem isSome_extension?_iff :
    (extension? round team history).isSome ↔ round.Continues team history := by
  -- The tick has to be the next one and the team has to be ranked, in this order.
  constructor
  · intro carried
    obtain ⟨longer, carried⟩ := Option.isSome_iff_exists.mp carried
    unfold extension? at carried
    split at carried
    · rename_i next
      obtain ⟨rank, ranked, _⟩ := Option.map_eq_some_iff.mp carried
      have counted : 0 ≤ round.tick.toInt := Int64.le_iff_toInt_le.mp next.2
      exact ⟨⟨_, next.1, Int.toNat_of_nonneg counted⟩, rank, ranked⟩
    · cases carried
  · rintro continues
    obtain ⟨rank, ranked⟩ := continues.2
    rw [extension?_of_continues continues ranked]
    rfl

end HistoryCache

/-- A round that continues a history finds a first series in it. -/
theorem Round.Continues.ne_nil (continues : round.Continues team history) : history ≠ [] := by
  rintro rfl
  obtain ⟨⟨_, first, _⟩, _⟩ := continues
  cases first

end Extension

namespace Lineage

variable {team : TeamId} {lineage : Lineage} {round : Round}

/-- The history behind another round is the one before, carried on or left. -/
theorem history_extend : (lineage.extend team round).history team =
    (HistoryCache.extension? round team (lineage.history team)).getD (lineage.history team) := by
  -- A round that carries nothing on leaves the lineage as it is.
  unfold extend
  split
  · simp [history]
  · rename_i left
    rw [Option.not_isSome_iff_eq_none.mp left, Option.getD_none]

/-- What holds of every lineage that begins with a rectangular history. -/
structure Grown (team : TeamId) (lineage : Lineage) : Prop where
  length : (lineage.history team).length = lineage.base.length
  topped : Topped (lineage.history team)
  rectangular_iff : Rectangular (lineage.history team) ↔ lineage.Filled team
  dated : Rectangular (lineage.history team) → lineage.Dated team

/-- A rectangular history that is put begins a lineage. -/
theorem grown_of_put {history : PointHistory} (rectangular : Rectangular history) :
    Grown team ⟨history, []⟩ where
  -- A lineage without rounds has nothing to be filled or dated.
  length := rfl
  topped := rectangular.topped
  rectangular_iff := iff_of_true rectangular nofun
  dated _ := nofun

/-- A round that continues the history of a lineage gives it the totals of the team. -/
theorem extend_of_continues {rank : Rank} (continues : round.Continues team (lineage.history team))
    (ranked : round.rankOf? team = some rank) :
    (lineage.extend team round).rounds = lineage.rounds ++ [round] ∧
      rank.Lengthens (lineage.history team) ((lineage.extend team round).history team) := by
  -- The round goes behind the others, and its totals behind the points.
  constructor
  · rw [extend, if_pos (HistoryCache.isSome_extension?_iff.mpr continues)]
  · rw [history_extend, HistoryCache.extension?_of_continues continues ranked]
    exact HistoryCache.lengthens_appendTotals rank _

/-- The history that a lineage began with stays. -/
@[simp] theorem base_extend : (lineage.extend team round).base = lineage.base := by
  unfold extend
  split <;> rfl

/-- Another round adds the demand that it fills the history, if it carries that on. -/
theorem filled_extend {rank : Rank} (continues : round.Continues team (lineage.history team))
    (ranked : round.rankOf? team = some rank) :
    (lineage.extend team round).Filled team ↔ lineage.Filled team ∧ rank.Fills lineage.base := by
  -- The rounds are the former ones and this one, and each has its own demand.
  unfold Filled
  rw [(extend_of_continues continues ranked).1, base_extend]
  constructor
  · intro filled
    exact ⟨fun former member => filled former (List.mem_append_left _ member),
      filled round (by simp) rank ranked⟩
  · rintro ⟨filled, fills⟩ former member other given
    rcases List.mem_append.mp member with before | last
    · exact filled former before other given
    · cases List.mem_singleton.mp last
      cases ranked.symm.trans given
      exact fills

/-- Results stand under their ticks behind another round, if all series ended in front of it. -/
theorem dated_extend {rank : Rank} (continues : round.Continues team (lineage.history team))
    (ranked : round.rankOf? team = some rank) (rectangular : Rectangular (lineage.history team))
    (dated : lineage.Dated team) : (lineage.extend team round).Dated team := by
  obtain ⟨rounds, lengthens⟩ := extend_of_continues continues ranked
  intro former member other given place series result there found
  -- The series was there before the round as well.
  have inside : place < (lineage.history team).length := by
    rw [← lengthens.1]
    exact (List.getElem?_eq_some_iff.mp there).1
  have held := List.getElem?_eq_getElem inside
  rw [rounds] at member
  rcases List.mem_append.mp member with before | last
  · exact lengthens.point_kept held there (dated former before other given place _ result held found)
  · cases List.mem_singleton.mp last
    cases ranked.symm.trans given
    -- The total is behind the last tick of the series, which all series share with the first.
    obtain ⟨⟨covered, first, tick⟩, _⟩ := continues
    obtain ⟨longest, head, rfl⟩ := Option.map_eq_some_iff.mp first
    have even := rectangular _ (List.getElem_mem inside) longest (List.mem_of_mem_head? head)
    rw [lengthens.2 place _ held, found] at there
    cases there
    rw [← tick, Int.toNat_natCast, ← even]
    exact List.getElem?_concat_length

/-- A round leaves a lineage as it should be. -/
theorem Grown.extend (grown : lineage.Grown team) (round : Round) :
    (lineage.extend team round).Grown team := by
  by_cases continues : round.Continues team (lineage.history team)
  · obtain ⟨rank, ranked⟩ := continues.2
    obtain ⟨rounds, lengthens⟩ := extend_of_continues continues ranked
    -- Rounds leave the number of series alone, so what filled the first history fills this one.
    have fills_iff : rank.Fills (lineage.history team) ↔ rank.Fills lineage.base := by
      unfold Rank.Fills
      rw [grown.length]
    have rectangular_iff : Rectangular ((lineage.extend team round).history team) ↔
        Rectangular (lineage.history team) ∧ rank.Fills lineage.base := by
      rw [lengthens.rectangular_iff grown.topped, fills_iff]
    refine ⟨?_, lengthens.topped grown.topped, ?_, fun rectangular => ?_⟩
    · rw [lengthens.1, grown.length, base_extend]
    · rw [rectangular_iff, filled_extend continues ranked, grown.rectangular_iff]
    · have before := (rectangular_iff.mp rectangular).1
      exact dated_extend continues ranked before (grown.dated before)
  · have left : lineage.extend team round = lineage :=
      if_neg (mt HistoryCache.isSome_extension?_iff.mp continues)
    rw [left]
    exact grown

end Lineage

section Operations

variable {team : TeamId} {operations : List HistoryOperation}

/-- The last operation is done behind all others. -/
@[simp] theorem HistoryCache.after_concat (last : HistoryOperation) :
    after (operations ++ [last]) = (after operations).operate last := by
  simp [after]

/-- A lineage is told by the last operation from that before it. -/
@[simp] theorem Lineage.after_concat (last : HistoryOperation) :
    after team (operations ++ [last]) = step team (after team operations) last := by
  simp [after]

/-- The history that is kept is the one of its lineage. -/
theorem HistoryCache.get?_after (operations : List HistoryOperation) (team : TeamId) :
    (after operations).get? team = (Lineage.after team operations).map (Lineage.history team) := by
  -- The induction goes over the last operation.
  induction operations using List.reverseRecOn with
  | nil => rfl
  | append_singleton operations last ih =>
    rw [after_concat, Lineage.after_concat]
    cases last with
    | put other history =>
      rw [operate, get?_put, Lineage.step]
      split
      · rfl
      · exact ih
    | extend round =>
      -- A round acts on all histories at once, and on each as its lineage says.
      rw [operate, get?_extend, ih, Lineage.step, Option.map_map, Option.map_map]
      exact Option.map_congr fun lineage _ => Lineage.history_extend.symm
    | invalidate other =>
      have erased : ((after operations).invalidate other).get? team =
          if team = other then none else (after operations).get? team :=
        Table.get?_erase _ _ _
      rw [operate, erased, Lineage.step, ih]
      simp only [eq_comm (a := team)]
      split <;> rfl
    | invalidateAll => rfl

/-- Operations keep every team in the cache at most once. -/
theorem HistoryCache.nodup_keys_after (operations : List HistoryOperation) :
    (after operations).histories.keys.Nodup := by
  -- The induction is on the operations from behind.
  induction operations using List.reverseRecOn with
  | nil => exact .nil
  | append_singleton operations last ih =>
    rw [after_concat]
    cases last with
    | put other history =>
      rw [operate, put]
      split
      · exact ih
      · exact Table.nodup_keys_insert ih other history
    | extend round =>
      rw [operate, HistoryCache.extend, Table.keys_mapEntries]
      exact ih
    | invalidate other => exact Table.nodup_keys_erase ih other
    | invalidateAll => exact .nil

/-- Lineages that begin with rectangular histories are as they should be. -/
theorem Lineage.grown_after
    (rectangular : ∀ team history, .put team history ∈ operations → Rectangular history)
    {lineage : Lineage} (lives : after team operations = some lineage) : lineage.Grown team := by
  -- The induction is on the operations from behind: a lineage begins with a put and grows with
  -- rounds.
  induction operations using List.reverseRecOn generalizing lineage with
  | nil => cases lives
  | append_singleton operations last ih =>
    have before : ∀ {former : Lineage}, after team operations = some former → former.Grown team :=
      ih fun team history member => rectangular team history (List.mem_append_left _ member)
    rw [after_concat] at lives
    cases last with
    | put other history =>
      rw [step] at lives
      split at lives
      · cases lives
        exact grown_of_put (rectangular other history (by simp))
      · exact before lives
    | extend round =>
      obtain ⟨former, lived, rfl⟩ := Option.map_eq_some_iff.mp lives
      exact (before lived).extend round
    | invalidate other =>
      rw [step] at lives
      split at lives
      · cases lives
      · exact before lives
    | invalidateAll => cases lives

/-- What a round does to the histories, if each team has at most one. -/
theorem HistoryCache.grows {cache : HistoryCache} (distinct : cache.histories.keys.Nodup)
    (round : Round) : cache.Grows round where
  -- Each team is looked up once, before the round and behind it.
  absent team none := by rw [get?_extend, none]; rfl
  spared team history held apart := by
    rw [get?_extend, held, Option.map_some,
      Option.not_isSome_iff_eq_none.mp (mt isSome_extension?_iff.mp apart), Option.getD_none]
  carried team history rank held continues ranked := by
    refine ⟨appendTotals history rank.services, ?_, lengthens_appendTotals rank history,
      appendTotals_eq_self_iff continues.ne_nil _⟩
    rw [get?_extend, held, Option.map_some, extension?_of_continues continues ranked,
      Option.getD_some]
  named team := by
    unfold extended
    rw [← List.foldl_map (f := Prod.fst) (g := fun teams team => insertAscending team teams),
      mem_foldl_insertAscending, List.mem_map]
    constructor
    · rintro (⟨⟨other, history⟩, member, rfl⟩ | none)
      · obtain ⟨inside, carried⟩ := List.mem_filter.mp member
        exact ⟨history, (Table.mem_entries_iff distinct).mp inside,
          isSome_extension?_iff.mp carried⟩
      · cases none
    · rintro ⟨history, held, continues⟩
      have inside := (Table.mem_entries_iff distinct).mpr held
      exact .inl ⟨(team, history), List.mem_filter.mpr
        ⟨inside, isSome_extension?_iff.mpr continues⟩, rfl⟩
  once := by
    unfold extended
    rw [← List.foldl_map (f := Prod.fst) (g := fun teams team => insertAscending team teams)]
    exact (foldl_insertAscending_pairwise .nil).imp Int64.ne_of_lt

end Operations

/--
What becomes of histories that are rectangular when they are put.

They stay so as long as each rank that carries them on has a result for every series, or for none.
Then every result stands under the tick of its round. A round carries on the histories that end right
before it, if it lists their teams, and names these teams, even if a rank has no results at all.
-/
theorem histories_aligned_while_filled {operations : List HistoryOperation}
    (rectangular : ∀ team history, .put team history ∈ operations → Rectangular history) :
    (∀ team history, (HistoryCache.after operations).get? team = some history →
      ∃ lineage, Lineage.after team operations = some lineage ∧ history = lineage.history team ∧
        (Rectangular history ↔ lineage.Filled team) ∧ (lineage.Filled team → lineage.Dated team)) ∧
      ∀ round, (HistoryCache.after operations).Grows round := by
  -- The lineage of a team tells its history, and the cache has every team once.
  refine ⟨fun team history held => ?_, HistoryCache.grows (HistoryCache.nodup_keys_after operations)⟩
  rw [HistoryCache.get?_after] at held
  obtain ⟨lineage, lives, rfl⟩ := Option.map_eq_some_iff.mp held
  have grown := Lineage.grown_after rectangular lives
  exact ⟨lineage, lives, rfl, grown.rectangular_iff, grown.dated ∘ grown.rectangular_iff.mpr⟩

namespace Sample

/-- The text of a round of tick 1 in which the only team has so many results. -/
def textWithResults (count : Nat) : List Char :=
  writeObject
    [writeMember "tick" ['1'], writeMember "services" ['[', ']'],
      writeMember "scoreboard"
        ('[' :: rankText (List.replicate count (service "web" [])) ++ [']'])]

/-- The round of tick 1 in which the only team has so many results. -/
def roundWithResults (count : Nat) : Round :=
  (Codec.round.decode (textWithResults count)).toOption.getD ⟨0, [], []⟩

/-- A history of two services is put, and then the round of tick 1 comes. -/
def operationsWithResults (count : Nat) : List HistoryOperation :=
  [.put 3 [[1], [2]], .extend (roundWithResults count)]

/-- The round is the one that its text is read as. -/
theorem decode_textWithResults {count : Nat}
    (readable : (Codec.round.decode (textWithResults count)).toOption.isSome) :
    Codec.round.decode (textWithResults count) = .ok (roundWithResults count) :=
  eq_ok_getD readable _

/-- The sample operations put rectangular histories only. -/
theorem rectangular_operationsWithResults (count : Nat) (team : TeamId) (history : PointHistory)
    (member : .put team history ∈ operationsWithResults count) : Rectangular history := by
  obtain ⟨-, rfl⟩ : team = 3 ∧ history = [[1], [2]] := by simpa [operationsWithResults] using member
  decide +kernel

end Sample

set_option maxRecDepth 100000 in
/-- A history of two services is carried on as it should be by a rank with two results. -/
theorem two_results_keep_alignment :
    (HistoryCache.after (Sample.operationsWithResults 2)).get? 3 = some [[1, 9], [2, 9]] ∧
      (∃ lineage, Lineage.after 3 (Sample.operationsWithResults 2) = some lineage ∧
        lineage.Filled 3 ∧ lineage.Dated 3) ∧
      (HistoryCache.after (Sample.operationsWithResults 2)).Grows (Sample.roundWithResults 2) := by
  -- The history is evaluated, and being rectangular it was filled.
  have held : (HistoryCache.after (Sample.operationsWithResults 2)).get? 3 =
      some [[1, 9], [2, 9]] := by decide +kernel
  have even : Rectangular [[1, 9], [2, 9]] := by decide +kernel
  obtain ⟨kept, grows⟩ :=
    histories_aligned_while_filled (Sample.rectangular_operationsWithResults 2)
  obtain ⟨lineage, lives, _, rectangular_iff, dated⟩ := kept 3 _ held
  have filled := rectangular_iff.mp even
  exact ⟨held, ⟨lineage, lives, filled, dated filled⟩, grows _⟩

set_option maxRecDepth 100000 in
/--
With one result for two services, the series of a rectangular history drift apart.

With no result at all, a history does not grow, and its team is named nevertheless.
-/
theorem missing_results_break_alignment :
    (∃ round, Codec.round.decode (Sample.textWithResults 1) = .ok round ∧
      Rectangular [[1], [2]] ∧
      (HistoryCache.after [.put 3 [[1], [2]], .extend round]).get? 3 = some [[1, 9], [2]] ∧
      ¬ Rectangular [[1, 9], [2]]) ∧
    ∃ round, Codec.round.decode (Sample.textWithResults 0) = .ok round ∧
      (HistoryCache.after [.put 3 [[1], [2]]]).extended round = [3] ∧
      (HistoryCache.after [.put 3 [[1], [2]], .extend round]).get? 3 = some [[1], [2]] := by
  -- Both rounds are decoded from their texts, and the cache is evaluated behind them.
  constructor
  · refine ⟨_, Sample.decode_textWithResults (by decide +kernel), ?_, ?_, ?_⟩
    · decide +kernel
    · decide +kernel
    · decide +kernel
  · refine ⟨_, Sample.decode_textWithResults (by decide +kernel), ?_, ?_⟩
    · decide +kernel
    · decide +kernel

end Scoreboard
