import Scoreboard.Proofs.Ranking.Histories

/-! Histories that are kept go on where they ended, unless an answer comes too late. -/

namespace Scoreboard

/-- Every series of a history goes on in another one. -/
def GoesOn (history longer : PointHistory) : Prop :=
  ∀ (place : Nat) (series : List Float), history[place]? = some series →
    ∃ more, longer[place]? = some more ∧ series <+: more

/-- The history of a team that a turn is told in answer to a request, none in any other turn. -/
def Turn.told? (turn : Turn) (team : TeamId) : Option PointHistory :=
  match turn.occasion with
  | .reply (.fetchingHistory _ asked _) reply =>
    if asked = team then
      (reply.document (.teamHistory team) .teamHistory).toOption.map TeamHistory.points
    else none
  | _ => none

/-- Whether a turn ends with a request for the history of a team. -/
def Turn.asksFor (turn : Turn) (team : TeamId) : Bool :=
  match turn.next with
  | .wait (.fetchingHistory _ asked _) => asked = team
  | _ => false

/-- A turn carries the history of a team on by the totals of a round. -/
def Turn.CarriesOn (turn : Turn) (team : TeamId) (longer : PointHistory) : Prop :=
  ∃ tick snapshot history, turn.check? = some (tick, snapshot) ∧
    turn.before.histories.get? team = some history ∧
    HistoryCache.extension? snapshot.round team history = some longer ∧
    turn.after.histories.get? team = some longer

/-- The successive documents of a team's history, and what a run gets to see of them. -/
structure Editions (past : List Turn) (team : TeamId) where
  document : Nat → PointHistory
  grows : ∀ edition, GoesOn (document edition) (document (edition + 1))
  /-- The edition that stands at a turn. -/
  standing : Nat → Nat
  rises : ∀ {place later : Nat}, place ≤ later → standing place ≤ standing later
  /-- The turn that sent the request to which a turn gets the answer. -/
  asked : Nat → Nat
  /-- The edition in the answer that a turn gets. -/
  told : Nat → Nat
  /-- An answer has an edition that stood at some moment while the request was under way. -/
  answers : ∀ place turn history, past[place]? = some turn → turn.told? team = some history →
    asked place < place ∧ (∃ sender, past[asked place]? = some sender ∧ sender.asksFor team = true) ∧
      standing (asked place) ≤ told place ∧ told place ≤ standing place ∧
      history = document (told place)

namespace Editions

variable {past : List Turn} {team : TeamId}

/-- The history that is kept changed under a later edition, while a turn waited for its answer. -/
def Overtaken (editions : Editions past team) (place : Nat) : Prop :=
  ∃ between turn, past[between]? = some turn ∧ editions.asked place < between ∧ between < place ∧
    turn.after.histories.get? team ≠ turn.before.histories.get? team ∧
    editions.told place < editions.standing between

/-- A turn finds a history that a round carried on in another way than the document of its time. -/
def AtOdds (editions : Editions past team) (place : Nat) : Prop :=
  ∃ earlier carrier turn history, earlier < place ∧ past[earlier]? = some carrier ∧
    past[place]? = some turn ∧ carrier.CarriesOn team history ∧
    turn.before.histories.get? team = some history ∧
    ¬ GoesOn history (editions.document (editions.standing earlier))

end Editions

namespace GoesOn

variable {history longer longest : PointHistory}

/-- Every history goes on from itself. -/
@[refl] theorem refl (history : PointHistory) : GoesOn history history :=
  fun _ series held => ⟨series, held, List.prefix_rfl⟩

/-- What goes on from a history that went on goes on from the first one. -/
theorem trans (first : GoesOn history longer) (second : GoesOn longer longest) :
    GoesOn history longest := by
  -- Series by series, one start of a list is a start of what goes on from it.
  intro place series held
  obtain ⟨more, there, starts⟩ := first place series held
  obtain ⟨most, ends, goesOn⟩ := second place more there
  exact ⟨most, ends, starts.trans goesOn⟩

/-- A history goes on when each of its series gets more points at its end. -/
theorem map_append (history : PointHistory) (points : List Float) :
    GoesOn history (history.map (· ++ points)) := by
  intro place series held
  exact ⟨series ++ points, by simp [held], List.prefix_append _ _⟩

/-- A history that goes on covers no fewer ticks. -/
theorem firstLength (goesOn : GoesOn history longer) {covered : Nat}
    (covers : HistoryCache.firstLength history = some covered) :
    ∃ more, HistoryCache.firstLength longer = some more ∧ covered ≤ more := by
  -- The first series has what it had, and maybe more.
  obtain ⟨series, first, rfl⟩ := Option.map_eq_some_iff.mp covers
  rw [List.head?_eq_getElem?] at first
  obtain ⟨more, there, starts⟩ := goesOn 0 series first
  refine ⟨more.length, ?_, starts.length_le⟩
  rw [HistoryCache.firstLength, List.head?_eq_getElem?, there]
  rfl

/-- A history goes on when a round continues it. -/
theorem of_extension {round : Round} {team : TeamId}
    (carried : HistoryCache.extension? round team history = some longer) :
    GoesOn history longer := by
  unfold HistoryCache.extension? at carried
  split at carried
  · obtain ⟨rank, _, rfl⟩ := Option.map_eq_some_iff.mp carried
    intro place series held
    rw [HistoryCache.getElem?_appendTotals, held]
    -- A series gets the total of its service, if there is one.
    cases rank.services[place]? with
    | none => exact ⟨series, rfl, List.prefix_rfl⟩
    | some result => exact ⟨series ++ [result.total], rfl, List.prefix_append _ _⟩
  · cases carried

end GoesOn

namespace HistoryCache

variable {cache : HistoryCache} {team : TeamId}

/-- A history that is put into the cache is found there, unless it is empty. -/
theorem get?_put (asked : TeamId) (history : PointHistory) :
    (cache.put team history).get? asked =
      if team = asked ∧ history ≠ [] then some history else cache.get? asked := by
  -- An empty history is put nowhere.
  unfold put
  cases history with
  | nil => simp
  | cons series rest => simp [get?, Table.get?_insert]

/-- Every history is found behind a round as it was, or carried on. -/
theorem get?_extend (round : Round) : (cache.extend round).get? team =
    (cache.get? team).map fun history => (extension? round team history).getD history :=
  Table.get?_mapEntries _ _ _

end HistoryCache

/-- What a turn does to the history of a team that the relay keeps. -/
theorem Turn.Deed.history_cases {turn : Turn} (deed : turn.Deed) (team : TeamId) :
    turn.after.histories.get? team = turn.before.histories.get? team ∨
      (∃ history, turn.told? team = some history ∧
        turn.after.histories.get? team = some history) ∨
      turn.after.histories.get? team = none ∨ ∃ longer, turn.CarriesOn team longer := by
  cases deed.deals with
  | settling tick snapshot checked after =>
    rcases turn.before.settleRound_cases tick snapshot.round with
      ⟨previous, _, _, _, settled⟩ | ⟨_, settled⟩
    · have histories : turn.after.histories =
          (if servicesChanged previous.round snapshot.round then .initial
            else turn.before.histories).extend snapshot.round := by
        rw [after, settled]
        exact Relay.processRound_histories _ previous.round snapshot.round
      split at histories
      · -- Other services are listed, and no history outlives that.
        refine .inr (.inr (.inl ?_))
        rw [histories, HistoryCache.get?_extend]
        rfl
      · have kept : turn.after.histories.get? team =
            (turn.before.histories.get? team).map fun history =>
              (HistoryCache.extension? snapshot.round team history).getD history := by
          rw [histories, HistoryCache.get?_extend]
        cases held : turn.before.histories.get? team with
        | none =>
          rw [held] at kept
          exact .inl kept
        | some history =>
          rw [held] at kept
          -- The history ends right before the round, or is left as it is.
          cases carried : HistoryCache.extension? snapshot.round team history with
          | none =>
            rw [Option.map_some, carried] at kept
            exact .inl kept
          | some longer =>
            rw [Option.map_some, carried] at kept
            exact .inr (.inr (.inr ⟨longer, tick, snapshot, history, checked, held, carried, kept⟩))
    · exact .inl (by rw [after, settled])
  | storing use tick retry reply round occasion served after next =>
    exact .inl (by rw [after]; rfl)
  | filing use other retry reply history occasion served after =>
    have put : turn.after.histories.get? team =
        if other = team ∧ history.points ≠ [] then some history.points
        else turn.before.histories.get? team := by
      rw [after]
      exact HistoryCache.get?_put team history.points
    rw [put]
    split
    · -- The answer is about this team, and there is something in it.
      rename_i own
      obtain ⟨rfl, _⟩ := own
      exact .inr (.inl ⟨history.points, by simp [Turn.told?, occasion, served, Except.toOption], rfl⟩)
    · exact .inl rfl
  | aside unchecked after =>
    have same : turn.after.histories = turn.before.histories := congrArg Prod.snd after
    exact .inl (by rw [same])

namespace Editions

variable {past : List Turn} {team : TeamId} (editions : Editions past team)

/-- A later edition goes on where an earlier one ended. -/
theorem goesOn {earlier later : Nat} (order : earlier ≤ later) :
    GoesOn (editions.document earlier) (editions.document later) := by
  induction order with
  | refl => exact .refl _
  | step _ ih => exact ih.trans (editions.grows _)

end Editions

section Runs

variable {backend : Backend} {notificationInterval : Nat} {preferences : Preferences}
  {tasks : List NewTask} {past : List Turn} {world : World} {team : TeamId}

/--
A history that is kept came to be at some earlier turn.

It is a beginning of the document that stood there, unless that turn carried it on.
-/
theorem Editions.origin (editions : Editions past team)
    (run : Run backend (.initial notificationInterval preferences tasks) past world) (place : Nat) :
    ∀ turn history, past[place]? = some turn → turn.before.histories.get? team = some history →
      ∃ earlier origin, earlier < place ∧ past[earlier]? = some origin ∧
        origin.after.histories.get? team = some history ∧
        origin.after.histories.get? team ≠ origin.before.histories.get? team ∧
        (GoesOn history (editions.document (editions.standing earlier)) ∨
          origin.CarriesOn team history) := by
  -- The induction goes back turn by turn, to the one at which the history was not there before.
  induction place with
  | zero =>
    intro turn history first held
    rw [run.before_zero first] at held
    cases held
  | succ place ih =>
    intro next history behind held
    obtain ⟨turn, here⟩ : ∃ turn, past[place]? = some turn := by
      have inside := (List.getElem?_eq_some_iff.mp behind).1
      exact ⟨_, List.getElem?_eq_getElem (by omega)⟩
    have after : turn.after.histories.get? team = some history := by
      rw [run.before_succ here behind] at held
      exact held
    by_cases changed : turn.after.histories.get? team = turn.before.histories.get? team
    · obtain ⟨earlier, origin, before, facts⟩ := ih turn history here (changed ▸ after)
      exact ⟨earlier, origin, Nat.lt_succ_of_lt before, facts⟩
    · refine ⟨place, turn, Nat.lt_succ_self place, here, after, changed, ?_⟩
      rcases (run.deed (List.mem_of_getElem? here)).history_cases team with
        same | ⟨told, answer, filed⟩ | gone | ⟨longer, carries⟩
      · exact absurd same changed
      · -- The edition in the answer is not newer than the one that stands.
        cases filed.symm.trans after
        obtain ⟨_, _, _, old, rfl⟩ := editions.answers place turn _ here answer
        exact .inl (editions.goesOn old)
      · cases gone.symm.trans after
      · obtain ⟨tick, snapshot, former, checked, stood, carried, left⟩ := carries
        cases left.symm.trans after
        exact .inr ⟨tick, snapshot, former, checked, stood, carried, left⟩

/-- A history that replaces another one goes on where that ended, unless its answer is too late. -/
theorem Editions.replaced (editions : Editions past team)
    (run : Run backend (.initial notificationInterval preferences tasks) past world) {place : Nat}
    {turn : Turn} {history later : PointHistory} (here : past[place]? = some turn)
    (held : turn.before.histories.get? team = some history)
    (left : turn.after.histories.get? team = some later) :
    GoesOn history later ∨
      turn.told? team = some later ∧ (editions.Overtaken place ∨ editions.AtOdds place) := by
  -- A history was told, carried on or left, and one that was told is an edition.
  rcases (run.deed (List.mem_of_getElem? here)).history_cases team with
    same | ⟨told, answer, filed⟩ | gone | ⟨longer, tick, snapshot, former, _, stood, carried, now⟩
  · cases (held.symm.trans same.symm).trans left
    exact .inl (.refl history)
  · cases filed.symm.trans left
    obtain ⟨_, _, young, _, rfl⟩ := editions.answers place turn _ here answer
    obtain ⟨earlier, origin, before, there, made, changed, sound⟩ :=
      editions.origin run place turn history here held
    by_cases begins : GoesOn history (editions.document (editions.standing earlier))
    · rcases Nat.lt_or_ge (editions.told place) (editions.standing earlier) with old | new
      · -- A request sent after that turn would have got the edition of that turn at least.
        have meanwhile : editions.asked place < earlier := by
          refine Nat.lt_of_not_le fun late => ?_
          have order := editions.rises late
          omega
        exact .inr ⟨answer, .inl ⟨earlier, origin, there, meanwhile, before, changed, old⟩⟩
      · exact .inl (begins.trans (editions.goesOn new))
    · exact .inr ⟨answer, .inr ⟨earlier, origin, turn, history, before, there, here,
        sound.resolve_left begins, held, begins⟩⟩
  · cases gone.symm.trans left
  · cases stood.symm.trans held
    cases now.symm.trans left
    exact .inl (.of_extension carried)

/-- From turn to turn, a history goes on as long as none is dropped and no answer is too late. -/
theorem Editions.span (editions : Editions past team)
    (run : Run backend (.initial notificationInterval preferences tasks) past world) {first : Nat}
    {opening : Turn} {history : PointHistory} (begins : past[first]? = some opening)
    (held : opening.before.histories.get? team = some history) (count : Nat) :
    ∀ closing, past[first + count]? = some closing →
      (∀ place turn, first ≤ place → place ≤ first + count → past[place]? = some turn →
        turn.after.histories.get? team ≠ none ∧
          ¬ editions.Overtaken place ∧ ¬ editions.AtOdds place) →
      ∃ later, closing.after.histories.get? team = some later ∧ GoesOn history later := by
  induction count with
  | zero =>
    intro closing ends spared
    cases begins.symm.trans ends
    obtain ⟨kept, intime, agreed⟩ := spared first opening (Nat.le_refl _) (Nat.le_refl _) begins
    obtain ⟨later, left⟩ := Option.ne_none_iff_exists'.mp kept
    refine ⟨later, left, (editions.replaced run begins held left).resolve_right ?_⟩
    exact fun late => late.2.elim intime agreed
  | succ count ih =>
    intro closing ends spared
    obtain ⟨turn, here⟩ : ∃ turn, past[first + count]? = some turn := by
      have inside := (List.getElem?_eq_some_iff.mp ends).1
      exact ⟨_, List.getElem?_eq_getElem (by omega)⟩
    obtain ⟨former, left, goesOn⟩ := ih turn here fun place other late early =>
      spared place other late (by omega)
    -- The last turn of the span goes on from where the one in front of it ended.
    have stood : closing.before.histories.get? team = some former := by
      rw [run.before_succ here ends]
      exact left
    obtain ⟨kept, intime, agreed⟩ :=
      spared (first + (count + 1)) closing (by omega) (Nat.le_refl _) ends
    obtain ⟨later, leaves⟩ := Option.ne_none_iff_exists'.mp kept
    refine ⟨later, leaves, goesOn.trans ((editions.replaced run ends stood leaves).resolve_right ?_)⟩
    exact fun late => late.2.elim intime agreed

/--
The histories that are kept only grow, but for answers that come too late.

Requests may overlap and end in any order, and rounds may be processed at any moment. A history that
takes the place of another one has all its points, series by series, unless it is an answer that was
overtaken or replaces a history that a round carried on in another way than the backend did. So from
any turn to any later one, as long as none of that happens and the history is not dropped, it goes on
and covers no fewer ticks.
-/
theorem histories_grow_unless_overtaken (editions : Editions past team)
    (run : Run backend (.initial notificationInterval preferences tasks) past world) :
    (∀ place turn history later, past[place]? = some turn →
      turn.before.histories.get? team = some history →
      turn.after.histories.get? team = some later →
      GoesOn history later ∨
        turn.told? team = some later ∧ (editions.Overtaken place ∨ editions.AtOdds place)) ∧
    ∀ first last opening closing history, first ≤ last → past[first]? = some opening →
      past[last]? = some closing → opening.before.histories.get? team = some history →
      (∀ place turn, first ≤ place → place ≤ last → past[place]? = some turn →
        turn.after.histories.get? team ≠ none ∧
          ¬ editions.Overtaken place ∧ ¬ editions.AtOdds place) →
      (∃ later, closing.after.histories.get? team = some later ∧ GoesOn history later) ∧
        ∀ covered, opening.before.histories.coveredTicks team = some covered →
          ∃ more, closing.after.histories.coveredTicks team = some more ∧ covered ≤ more := by
  refine ⟨fun place turn history later here held left => editions.replaced run here held left, ?_⟩
  intro first last opening closing history order begins ends held spared
  obtain ⟨count, rfl⟩ := Nat.exists_eq_add_of_le order
  obtain ⟨later, left, goesOn⟩ := editions.span run begins held count closing ends spared
  refine ⟨⟨later, left, goesOn⟩, fun covered covers => ?_⟩
  -- How many ticks are covered is told by the histories at both ends.
  rw [HistoryCache.coveredTicks, held] at covers
  rw [HistoryCache.coveredTicks, left]
  exact goesOn.firstLength covers

end Runs

namespace Sample

/-- The history that is told first, and the one that is told later, with more points at its ends. -/
def edition (points : List Float) : Nat → PointHistory
  | 0 => toldHistory
  | _ + 1 => toldHistory.map (· ++ points)

/-- What an answer tells of a history, with the text of the points at its ends. -/
def editionReply (points : String) : Reply :=
  .answered 200 none <| some <| writeObject
    [writeMember "points" ("[[0,9,18,27,36,45" ++ points ++ "],[0,9,18,27,36,45" ++ points ++
      "]]").toList]

/-- The later history stands from a turn on. -/
def standingFrom (moved place : Nat) : Nat :=
  if place < moved then 0 else 1

/-- Whether the answers of a run are editions that stood while they were asked for. -/
def fits (past : List Turn) (points : List Float) (moved : Nat) (asked told : Nat → Nat) : Bool :=
  past.zipIdx.all fun (turn, place) =>
    match turn.told? 3 with
    | none => true
    | some history =>
      asked place < place && past[asked place]?.any (·.asksFor 3) &&
        standingFrom moved (asked place) ≤ told place && told place ≤ standingFrom moved place &&
        history = edition points (told place)

/-- What a run gets to see of the two histories, if its answers fit. -/
def editions {past : List Turn} {points : List Float} {moved : Nat} {asked told : Nat → Nat}
    (checked : fits past points moved asked told = true) : Editions past 3 where
  document := edition points
  grows
    | 0 => .map_append toldHistory points
    | _ + 1 => .refl _
  standing := standingFrom moved
  rises order := by
    unfold standingFrom
    split <;> split <;> omega
  asked := asked
  told := told
  answers place turn history here answer := by
    have fit := List.all_eq_true.mp checked (turn, place) (List.mem_zipIdx_iff_getElem?.mpr here)
    simp only [answer, Bool.and_eq_true, decide_eq_true_eq, Option.any_eq_true] at fit
    obtain ⟨⟨⟨⟨before, sender⟩, young⟩, old⟩, same⟩ := fit
    exact ⟨before, sender, young, old, same⟩

/-- A poll by itself, at which the tick behind the newest one is played. -/
def pollBehind (tick : Tick) : List Choice :=
  [.call .poll, .reply 0 (.answered 200 none <| some <|
    Codec.currentState.write ⟨tick + 1, .running, 1000, tick, none⟩), .ready 0]

/-- A history is asked for and told. -/
def tellHistory (reply : Reply) : List Choice :=
  [.call (.history 3), .ready 0, .reply 0 reply]

/-- A history is told, carried on, and told once more at the next tick. -/
def retoldHistory (points : String) : List (Moment × Choice) :=
  madeAt 0 <| poll 5 ++ lookup 5 ++ tellHistory (editionReply "") ++ poll 6 ++ lookup 6 ++
    pollBehind 6 ++ tellHistory (editionReply points)

/-- Whether a history is kept from a turn on, and rounds make one history of it and no other. -/
def carriedFrom (past : List Turn) (place : Nat) (longer : PointHistory) : Bool :=
  past.zipIdx.all fun (turn, other) =>
    let left := turn.after.histories.get? 3
    if other < place then turn.check?.isNone || left.isNone
    else left.isSome && (turn.check?.isNone || left = some longer)

/-- What is checked from a place on holds of every turn from there on. -/
theorem carriedFrom_spec {past : List Turn} {place : Nat} {longer : PointHistory}
    (checked : carriedFrom past place longer = true) {other : Nat} {turn : Turn}
    (here : past[other]? = some turn) :
    (place ≤ other → turn.after.histories.get? 3 ≠ none) ∧
      ∀ history, turn.CarriesOn 3 history → place ≤ other ∧ history = longer := by
  have fit := List.all_eq_true.mp checked (turn, other) (List.mem_zipIdx_iff_getElem?.mpr here)
  refine ⟨fun late gone => ?_, fun history carries => ?_⟩
  · simp [Nat.not_lt.mpr late, gone] at fit
  · obtain ⟨tick, snapshot, former, looked, _, _, left⟩ := carries
    -- A turn that carries a history on looks at a round, and leaves a history.
    by_cases early : other < place
    · simp [early, looked, left] at fit
    · simp only [early, looked, left, if_false, Option.isSome_some, Option.isNone_some,
        Bool.true_and, Bool.false_or, decide_eq_true_eq, Option.some.injEq] at fit
      exact ⟨Nat.not_lt.mp early, fit⟩

/-- A backend that may answer in any way. -/
def anyAnswer : Endpoint → Reply → Bool :=
  fun _ _ => true

end Sample

set_option maxRecDepth 100000 in
/-- A history that was carried on goes on when it is told once more with all its points. -/
theorem retold_history_goes_on : ∃ past world, ∃ _ : Editions past 3,
    Run (fun endpoint reply => Sample.anyAnswer endpoint reply = true) Sample.start past world ∧
      ∃ opening closing history later, past[9]? = some opening ∧ past[20]? = some closing ∧
        opening.before.histories.get? 3 = some history ∧
        closing.after.histories.get? 3 = some later ∧ GoesOn history later ∧
        opening.before.histories.coveredTicks 3 = some 6 ∧
        closing.after.histories.coveredTicks 3 = some 8 := by
  have replayed : (Sample.start.replay Sample.anyAnswer [] (Sample.retoldHistory ",9,18")).map
      (fun reached => (Sample.fits reached.1 [9, 18] 9 (· - 1) (Sample.standingFrom 20),
        Sample.carriedFrom reached.1 9 (Sample.toldHistory.map (· ++ [9])),
        reached.1[9]?.bind fun turn => turn.before.histories.coveredTicks 3,
        reached.1[20]?.bind fun turn => turn.after.histories.coveredTicks 3)) =
      some (true, true, some 6, some 8) := by decide +kernel
  obtain ⟨past, world, run, facts⟩ := Run.of_replay replayed
  simp only [Prod.mk.injEq] at facts
  obtain ⟨fitting, carried, covers, covered⟩ := facts
  obtain ⟨opening, begins, covers⟩ := Option.bind_eq_some_iff.mp covers
  obtain ⟨closing, ends, covered⟩ := Option.bind_eq_some_iff.mp covered
  obtain ⟨history, held, _⟩ := Option.bind_eq_some_iff.mp covers
  have spared : ∀ place turn, 9 ≤ place → place ≤ 20 → past[place]? = some turn →
      turn.after.histories.get? 3 ≠ none ∧ ¬ (Sample.editions fitting).Overtaken place ∧
        ¬ (Sample.editions fitting).AtOdds place := by
    intro place turn late _ here
    refine ⟨(Sample.carriedFrom_spec carried here).1 late, ?_, ?_⟩
    · -- Every answer comes right behind its request.
      rintro ⟨between, _, _, after, before, _⟩
      have order : place - 1 < between := after
      omega
    · rintro ⟨earlier, carrier, _, longer, _, there, _, carries, _, odds⟩
      obtain ⟨moved, rfl⟩ := (Sample.carriedFrom_spec carried there).2 longer carries
      -- What the round makes of the history is a beginning of the later one, which stands by then.
      have standing : (Sample.editions fitting).standing earlier = 1 :=
        if_neg (Nat.not_lt.mpr moved)
      have begins : GoesOn (Sample.toldHistory.map (· ++ [9])) (Sample.edition [9, 18] 1) := by
        have whole : (Sample.toldHistory.map (· ++ [9])).map (· ++ [18]) =
            Sample.edition [9, 18] 1 := by simp [Sample.edition]
        rw [← whole]
        exact .map_append _ [18]
      rw [standing] at odds
      exact odds begins
  obtain ⟨⟨later, left, goesOn⟩, _⟩ := (histories_grow_unless_overtaken (Sample.editions fitting)
    run).2 9 20 opening closing history (by decide) begins ends held spared
  exact ⟨past, world, Sample.editions fitting, run, opening, closing, history, later, begins, ends,
    held, left, goesOn, covers, covered⟩

namespace Sample

/-- While a history is asked for, the next round carries it on, and then the old one is told. -/
def lateHistory : List (Moment × Choice) :=
  madeAt 0 <| poll 5 ++ lookup 5 ++ tellHistory historyReply ++ pollBehind 5 ++
    [.call (.history 3), .ready 0] ++ [.call .poll, .reply 1 (stateReply 6), .ready 1] ++
    [.call (.ranking 6), .reply 1 (roundReply 6), .ready 1, .reply 0 historyReply]

end Sample

set_option maxRecDepth 100000 in
/--
A tick that was appended is lost to a late answer, and its points to a document that has others.

Rounds and histories agree in the first run. In the second, the totals of the round do not agree with
the document that follows, which goes on where the document before it ended.
-/
theorem late_answer_loses_tick :
    (∃ past world, ∃ _ : Editions past 3, Run Sample.backend Sample.start past world ∧
      ∃ turn, past[20]? = some turn ∧ turn.before.histories.coveredTicks 3 = some 7 ∧
        turn.after.histories.coveredTicks 3 = some 6) ∧
    ∃ past world, ∃ _ : Editions past 3,
      Run (fun endpoint reply => Sample.anyAnswer endpoint reply = true) Sample.start past world ∧
        ∃ turn history later, past[20]? = some turn ∧
          turn.before.histories.get? 3 = some history ∧
          turn.after.histories.get? 3 = some later ∧ ¬ GoesOn history later := by
  constructor
  · -- The request of turn 13 gets the history that stood then, after the round of tick 6.
    have replayed : (Sample.start.replay Sample.answers [] Sample.lateHistory).map
        (fun reached => (Sample.fits reached.1 [9] 14
            (fun place => if place < 20 then place - 1 else 13) (fun _ => 0),
          reached.1[20]?.bind fun turn => turn.before.histories.coveredTicks 3,
          reached.1[20]?.bind fun turn => turn.after.histories.coveredTicks 3)) =
        some (true, some 7, some 6) := by decide +kernel
    obtain ⟨past, world, run, facts⟩ := Run.of_replay replayed
    simp only [Prod.mk.injEq] at facts
    obtain ⟨fitting, covers, covered⟩ := facts
    obtain ⟨turn, here, covers⟩ := Option.bind_eq_some_iff.mp covers
    rw [here] at covered
    exact ⟨past, world, Sample.editions fitting, run, turn, here, covers, covered⟩
  · have replayed : (Sample.start.replay Sample.anyAnswer [] (Sample.retoldHistory ",10")).map
        (fun reached => (Sample.fits reached.1 [10] 9 (· - 1) (Sample.standingFrom 20),
          reached.1[20]?.bind fun turn => turn.before.histories.get? 3,
          reached.1[20]?.bind fun turn => turn.after.histories.get? 3)) =
        some (true, some [[0, 9, 18, 27, 36, 45, 9], [0, 9, 18, 27, 36, 45, 9]],
          some [[0, 9, 18, 27, 36, 45, 10], [0, 9, 18, 27, 36, 45, 10]]) := by decide +kernel
    obtain ⟨past, world, run, facts⟩ := Run.of_replay replayed
    simp only [Prod.mk.injEq] at facts
    obtain ⟨fitting, held, left⟩ := facts
    obtain ⟨turn, here, held⟩ := Option.bind_eq_some_iff.mp held
    rw [here] at left
    refine ⟨past, world, Sample.editions fitting, run, turn, _, _, here, held, left,
      fun goesOn => ?_⟩
    -- The series of the first service ends with other points.
    obtain ⟨more, there, starts⟩ := goesOn 0 _ rfl
    cases there
    revert starts
    decide +kernel

end Scoreboard
