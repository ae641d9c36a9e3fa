import Scoreboard.Proofs.Ranking.Publication
import Scoreboard.Proofs.Relay.Outcomes

/-! Answers to requests for a ranking: by the tick that is asked for, and the one that is published. -/

namespace Scoreboard

/-- No turn of a task has asked the backend for anything. -/
def Unasked (turns : List Turn) : Prop :=
  ∀ turn ∈ turns, ∀ stage endpoint, turn.next = .wait stage → stage.wait ≠ .reply endpoint

/-- The round of a tick is kept and is handed out, or it is fetched. -/
inductive HandedOut (tick : Tick) (relay : Relay) (turns : List Turn) : Response → Prop
  /-- The cache has the round, and the backend is not asked. -/
  | kept (snapshot : Snapshot) (kept : relay.rounds.get? tick = some snapshot)
      (unasked : Unasked turns) :
      HandedOut tick relay turns (.ofDocument (Codec.round.write snapshot.round))
  /-- The backend is asked, and what comes of that is answered. -/
  | fetched {response : Response} (missing : relay.rounds.get? tick = none)
      (course : (Relayed.ranking tick).Course turns (.done (.response response))) :
      HandedOut tick relay turns response

/-- What a request for a ranking is answered, by the relay that its look finds. -/
inductive RankingAnswer (tick : Tick) (relay : Relay) (turns : List Turn) : Response → Prop
  /-- Whatever is above the scoreboard is not published, be it negative or not. -/
  | unpublished (above : relay.scoreboardTick < tick) (unasked : Unasked turns) :
      RankingAnswer tick relay turns (.ofError (.unpublishedTick tick))
  /-- A negative tick that is not above the scoreboard does not exist. -/
  | negative (below : tick ≤ relay.scoreboardTick) (negative : tick < 0)
      (unasked : Unasked turns) : RankingAnswer tick relay turns (.ofError (.negativeTick tick))
  | published {response : Response} (counted : 0 ≤ tick) (published : tick ≤ relay.scoreboardTick)
      (handedOut : HandedOut tick relay turns response) : RankingAnswer tick relay turns response

/-- The rule for requests for rankings: negative ticks are bad ones, and later ones not found. -/
structure RankingRule (tick : Tick) (relay : Relay) (turns : List Turn) (response : Response) :
    Prop where
  negative : tick < 0 → response.status = 400
  unpublished : 0 ≤ tick → relay.scoreboardTick < tick → response.status = 404 ∧ Unasked turns
  published : 0 ≤ tick → tick ≤ relay.scoreboardTick →
    response.status ≠ 400 ∧ HandedOut tick relay turns response

section Answers

variable {tick : Tick} {relay : Relay} {turns : List Turn} {response : Response}

/-- A round that is handed out, or cannot be had, is no fault of the request. -/
theorem HandedOut.status (handedOut : HandedOut tick relay turns response) :
    response.status = 200 ∨ response.status = 404 ∨ response.status = 502 := by
  cases handedOut with
  | kept snapshot kept unasked => exact .inl rfl
  | fetched missing course =>
    cases course with
    | answers => exact .inl rfl
    | refuses failures last problem response replies failed spent fails wording status =>
      -- The last failure is that there is no such round, or a fault of the backend.
      rw [status]
      cases last.isNotFound
      · exact .inr (.inr rfl)
      · exact .inr (.inl rfl)

/-- Only negative ticks that are not above the scoreboard are bad ones. -/
theorem RankingAnswer.bad_iff (answer : RankingAnswer tick relay turns response) :
    response.status = 400 ↔ tick < 0 ∧ tick ≤ relay.scoreboardTick := by
  -- Each answer has a status, and its own reason to be given.
  cases answer with
  | unpublished above unasked =>
    have missing : (Response.ofError (.unpublishedTick tick)).status = 404 := rfl
    rw [missing]
    exact ⟨nofun, fun bad => absurd above (Int64.not_lt.mpr bad.2)⟩
  | negative below negative unasked => exact ⟨fun _ => ⟨negative, below⟩, fun _ => rfl⟩
  | published counted published handedOut =>
    constructor
    · intro bad
      rcases handedOut.status with status | status | status <;>
        exact absurd (status.symm.trans bad) (by decide)
    · exact fun bad => absurd bad.1 (Int64.not_lt.mpr counted)

/-- An answer keeps to the rule unless its tick is negative and above the scoreboard. -/
theorem RankingAnswer.rule_iff (answer : RankingAnswer tick relay turns response) :
    RankingRule tick relay turns response ↔ (tick < 0 → tick ≤ relay.scoreboardTick) := by
  constructor
  · exact fun rule negative => (answer.bad_iff.mp (rule.negative negative)).2
  · intro below
    have bad : tick < 0 → response.status = 400 :=
      fun negative => answer.bad_iff.mpr ⟨negative, below negative⟩
    -- The tick lies on one side of zero, and on one side of the scoreboard.
    cases answer with
    | unpublished above unasked =>
      exact ⟨bad, fun _ _ => ⟨rfl, unasked⟩, fun _ reached => absurd above (Int64.not_lt.mpr reached)⟩
    | negative reached negative unasked =>
      exact ⟨bad, fun counted => absurd negative (Int64.not_lt.mpr counted),
        fun counted => absurd negative (Int64.not_lt.mpr counted)⟩
    | published counted reached handedOut =>
      refine ⟨bad, fun _ above => absurd above (Int64.not_lt.mpr reached), fun _ _ => ⟨?_, handedOut⟩⟩
      rcases handedOut.status with status | status | status <;> rw [status] <;> decide

/-- Once some scoreboard is published, no negative tick is above it. -/
theorem below_of_negative (started : -1 ≤ relay.scoreboardTick) (negative : tick < 0) :
    tick ≤ relay.scoreboardTick := by
  -- A negative tick is at most the one below zero, and the scoreboard is there at least.
  rw [Int64.le_iff_toInt_le] at started ⊢
  rw [Int64.lt_iff_toInt_lt] at negative
  have minusOne : (-1 : Int64).toInt = -1 := by decide
  have zero : (0 : Int64).toInt = 0 := by decide
  omega

end Answers

/-- Where a request for a ranking stands: it waits for something that comes, or is answered. -/
def RankingStands (tick : Tick) (relay : Relay) (turns : List Turn) : Next → Prop
  | .wait stage => stage.wait = .part ∨ stage.wait = .reply (.round tick) ∨
    ∃ deadline, stage.wait = .time deadline
  | .done outcome => ∃ response, outcome = .response response ∧
    RankingAnswer tick relay turns response

section Requests

variable {backend : Backend} {asked look : Turn} {rest : List Turn} {request : Request}
  {tick : Tick} {next : Next}

/-- Turns that end, or wait for a part of the shared state, have not asked the backend. -/
theorem unasked_of_part {turns : List Turn}
    (parts : ∀ turn ∈ turns, ∀ stage, turn.next = .wait stage → stage.wait = .part) :
    Unasked turns := by
  -- A turn that asks waits for a reply and not for a part.
  intro turn member stage endpoint waits asks
  have part := parts turn member stage waits
  rw [asks] at part
  cases part

/-- The first turn of a request for a ranking leads to its look, and changes nothing. -/
theorem Turn.calls_ranking (occasion : asked.occasion = .call (.request request))
    (routed : routeOf request.method request.address.toList = .ok (.ranking tick)) :
    asked.result = (asked.before, .wait (.entering 1 (.answer request (.ranking tick)))) := by
  have relayed : routeOf request.method request.address.toList =
      .ok (Relayed.ranking tick).route := routed
  exact Relayed.result_of_call occasion relayed

/-- A request that is refused is answered by its look, without the backend. -/
theorem Strand.ranking_refused (occasion : asked.occasion = .call (.request request))
    (routed : routeOf request.method request.address.toList = .ok (.ranking tick))
    (strand : Strand asked.next (look :: rest) next) (due : look.IsDue backend)
    (outside : tick < 0 ∨ look.before.scoreboardTick < tick) :
    rest = [] ∧ RankingStands tick look.before (asked :: look :: rest) next := by
  obtain ⟨_, waits, _, done, rfl⟩ := strand.refused occasion routed due outside
  obtain rfl : look.next = next := @Strand.next_of_last _ _ [] look strand
  have unasked : Unasked [asked, look] := by
    refine unasked_of_part fun turn member stage next => ?_
    rcases List.mem_cons.mp member with rfl | last
    · cases waits.symm.trans next
      rfl
    · obtain rfl := List.mem_singleton.mp last
      cases done.symm.trans next
  rw [done]
  refine ⟨rfl, _, rfl, ?_⟩
  -- Above the scoreboard, the sign of the tick is not looked at.
  by_cases above : look.before.scoreboardTick < tick
  · rw [if_pos above]
    exact .unpublished above unasked
  · rw [if_neg above]
    exact .negative (Int64.not_lt.mp above) (outside.resolve_right above) unasked

/-- A round that is kept is looked at once more and handed out, without the backend. -/
theorem Strand.ranking_kept (occasion : asked.occasion = .call (.request request))
    (routed : routeOf request.method request.address.toList = .ok (.ranking tick))
    (strand : Strand asked.next (look :: rest) next)
    (due : ∀ turn ∈ look :: rest, turn.IsDue backend) (counted : 0 ≤ tick)
    (published : tick ≤ look.before.scoreboardTick) {snapshot : Snapshot}
    (kept : look.before.rounds.get? tick = some snapshot) :
    rest.length ≤ 1 ∧ RankingStands tick look.before (asked :: look :: rest) next := by
  have called : asked.next = .wait _ := congrArg Prod.snd (Turn.calls_ranking occasion routed)
  obtain ⟨⟨stage, waits, takes⟩, behind⟩ := strand.uncons rfl
  cases called.symm.trans waits
  have looked : look.next = .wait (.entering 1 (.settleRound .response tick snapshot)) := by
    rw [Turn.next, Turn.performs (due look List.mem_cons_self) takes]
    simp only [Relay.perform, Relay.answerRoute, if_neg (Int64.not_lt.mpr published),
      Relay.askRanking, if_neg (Int64.not_lt.mpr counted), kept]
    rfl
  rw [looked] at behind
  cases rest with
  | nil =>
    obtain rfl := behind.eq_of_nil rfl
    exact ⟨Nat.zero_le 1, .inl rfl⟩
  | cons settling rest =>
    obtain ⟨⟨_, waits, takes⟩, behind⟩ := behind.uncons rfl
    cases waits
    obtain ⟨done, _⟩ := Relayed.next_of_settling (due settling (by simp)) takes
    rw [done] at behind
    obtain ⟨rfl, rfl⟩ := behind.of_done
    -- The three turns have waited for parts of the shared state only.
    have unasked : Unasked [asked, look, settling] := by
      refine unasked_of_part fun turn member stage next => ?_
      simp only [List.mem_cons, List.not_mem_nil, or_false] at member
      rcases member with rfl | rfl | rfl
      · cases called.symm.trans next
        rfl
      · cases looked.symm.trans next
        rfl
      · cases done.symm.trans next
    exact ⟨Nat.le_refl 1, _, rfl, .published counted published (.kept snapshot kept unasked)⟩

/-- A round that is not kept is fetched, which takes a bounded number of turns. -/
theorem Strand.ranking_fetched (occasion : asked.occasion = .call (.request request))
    (routed : routeOf request.method request.address.toList = .ok (.ranking tick))
    (strand : Strand asked.next (look :: rest) next)
    (due : ∀ turn ∈ look :: rest, turn.IsDue backend) (counted : 0 ≤ tick)
    (published : tick ≤ look.before.scoreboardTick)
    (missing : look.before.rounds.get? tick = none) :
    rest.length ≤ 22 ∧ RankingStands tick look.before (asked :: look :: rest) next := by
  have called := Turn.calls_ranking occasion routed
  have waiting : asked.next = .wait _ := congrArg Prod.snd called
  obtain ⟨⟨stage, waits, takes⟩, behind⟩ := strand.uncons rfl
  cases waiting.symm.trans waits
  have ready := Turn.ready_of_takes (due look List.mem_cons_self) takes (by simp [Stage.wait])
  have wanting : (Relayed.ranking tick).Wanting look.before := ⟨counted, published, missing⟩
  have looked := Relayed.result_of_look rfl ready wanting
  have goesOn : look.next = .wait ((Relayed.ranking tick).errand.attempt 0) :=
    congrArg Prod.snd looked
  rw [goesOn] at behind
  -- Neither the call nor the look gets a reply or changes anything.
  have silent : repliesOf [asked, look] = [] := by
    rw [repliesOf_cons_of_none (by rw [Turn.reply?, occasion]),
      repliesOf_cons_of_none (by rw [Turn.reply?, ready])]
    rfl
  have unchanged : ∀ turn ∈ [asked, look], turn.after = turn.before := by
    intro turn member
    rcases List.mem_cons.mp member with rfl | last
    · exact congrArg Prod.fst called
    · exact List.mem_singleton.mp last ▸ congrArg Prod.fst looked
  obtain ⟨course, short⟩ := Relayed.Course.of_strand
    (fun turn member => due turn (List.mem_cons_of_mem _ member)) silent unchanged behind
  refine ⟨short, ?_⟩
  have whole : (Relayed.ranking tick).Course (asked :: look :: rest) next := course
  cases next with
  | wait stage => exact whole.wait_cases
  | done outcome =>
    have answered : ∃ response, outcome = .response response := by
      cases whole with
      | answers => exact ⟨_, rfl⟩
      | refuses => exact ⟨_, rfl⟩
    obtain ⟨response, rfl⟩ := answered
    exact ⟨response, rfl, .published counted published (.fetched missing whole)⟩

/--
A request for a ranking is answered by the tick that it asks for and the one that is published.

It has a bounded number of turns, and waits for nothing but a part of the shared state, the reply
with its round, or a moment. Its look at the scoreboard settles the answer, and the answer keeps to
the rule unless the tick is negative and above the scoreboard. No tick is so once some scoreboard is
published.
-/
theorem ranking_requests_answered {start world : World} {past earlier since own : List Turn}
    (run : Run backend start past world) (parts : past = earlier ++ asked :: since)
    (occasion : asked.occasion = .call (.request request))
    (routed : routeOf request.method request.address.toList = .ok (.ranking tick))
    (strand : Strand asked.next own next) (inside : own.Sublist since) :
    own.length ≤ 23 ∧
      (own = [] → ∃ stage, next = .wait stage ∧ stage.wait = .part) ∧
      ∀ look ∈ own.head?,
        RankingStands tick look.before (asked :: own) next ∧
        ∀ response, next = .done (.response response) →
          (response.status = 400 ↔ tick < 0 ∧ tick ≤ look.before.scoreboardTick) ∧
          (RankingRule tick look.before (asked :: own) response ↔
            (tick < 0 → tick ≤ look.before.scoreboardTick)) ∧
          (-1 ≤ look.before.scoreboardTick →
            RankingRule tick look.before (asked :: own) response) := by
  have due := run.due_of_sublist parts inside
  cases own with
  | nil =>
    -- The request is in front of its look.
    have called : asked.next = .wait (.entering 1 (.answer request (.ranking tick))) :=
      congrArg Prod.snd (Turn.calls_ranking occasion routed)
    have same : next = asked.next := strand.eq_of_nil rfl
    refine ⟨Nat.zero_le _, fun _ => ⟨_, same.trans called, rfl⟩, fun look first => ?_⟩
    cases first
  | cons look rest =>
    -- The look refuses the request, or finds the round, or has it fetched.
    have stands : rest.length ≤ 22 ∧ RankingStands tick look.before (asked :: look :: rest) next := by
      by_cases outside : tick < 0 ∨ look.before.scoreboardTick < tick
      · obtain ⟨rfl, stands⟩ := strand.ranking_refused occasion routed (due look (by simp)) outside
        exact ⟨Nat.zero_le _, stands⟩
      · obtain ⟨counted, published⟩ := not_or.mp outside
        have counted := Int64.not_lt.mp counted
        have published := Int64.not_lt.mp published
        cases found : look.before.rounds.get? tick with
        | none => exact strand.ranking_fetched occasion routed due counted published found
        | some snapshot =>
          obtain ⟨short, stands⟩ :=
            strand.ranking_kept occasion routed due counted published found
          exact ⟨Nat.le_trans short (by decide), stands⟩
    obtain ⟨short, stands⟩ := stands
    refine ⟨Nat.succ_le_succ short, nofun, ?_⟩
    rintro _ ⟨⟩
    refine ⟨stands, ?_⟩
    rintro response rfl
    obtain ⟨_, same, answer⟩ := stands
    cases same
    exact ⟨answer.bad_iff, answer.rule_iff,
      fun started => answer.rule_iff.mpr (below_of_negative started)⟩

/-- The tick that a request looks for in a turn. -/
def Turn.looksFor? (turn : Turn) : Option (Request × Tick) :=
  match turn.occasion with
  | .ready (.entering 1 (.answer request (.ranking tick))) => some (request, tick)
  | _ => none

/-- A look at the ranking is the step that answers a request for it. -/
theorem Turn.occasion_of_looksFor? (looks : look.looksFor? = some (request, tick)) :
    look.occasion = .ready (.entering 1 (.answer request (.ranking tick))) := by
  -- Only that step looks.
  unfold looksFor? at looks
  split at looks
  · rename_i occasion
    cases looks
    exact occasion
  · cases looks

end Requests

namespace Sample

/-- A request for the ranking of a negative tick. -/
def negativeRequest : Request :=
  ⟨.get, "/api/ranking/-3", none, ""⟩

/-- A scoreboard is published, and the ranking of a negative tick is asked for. -/
def negativeAsked (published : Tick) : List (Moment × Choice) :=
  madeAt 0 (poll published ++ [.call (.request negativeRequest), .ready 0])

/-- What a replay tells of the request: its call, its look, and what that finds published. -/
def requestFacts (turns : List Turn) : Option Request × Option (Request × Tick) × Option Tick :=
  (turns[3]?.bind Turn.request?, turns[4]?.bind Turn.looksFor?,
    turns[4]?.map fun look => look.before.scoreboardTick)

/-- The sample request asks for the ranking of a negative tick. -/
theorem routeOf_negativeRequest :
    routeOf negativeRequest.method negativeRequest.address.toList = .ok (.ranking (-3)) :=
  eq_ok_of_toOption (by decide +kernel)

/-- The request is made behind the poll, and its look follows. -/
theorem negativeAsked_strand {published : Tick}
    (replayed : (start.replay answers [] (negativeAsked published)).map (requestFacts ·.1) =
      some (some negativeRequest, some (negativeRequest, -3), some published)) :
    ∃ past earlier since asked look world, Run backend start past world ∧
      past = earlier ++ asked :: since ∧ asked.occasion = .call (.request negativeRequest) ∧
      Strand asked.next [look] look.next ∧ [look].Sublist since ∧ look.IsDue backend ∧
      look.before.scoreboardTick = published := by
  obtain ⟨past, world, run, facts⟩ := Run.of_replay replayed
  simp only [requestFacts, Prod.mk.injEq] at facts
  obtain ⟨requested, looked, found⟩ := facts
  obtain ⟨asked, here, requested⟩ := Option.bind_eq_some_iff.mp requested
  obtain ⟨look, there, looked⟩ := Option.bind_eq_some_iff.mp looked
  obtain ⟨_, same, found⟩ := Option.map_eq_some_iff.mp found
  cases there.symm.trans same
  have occasion := Turn.occasion_of_request? requested
  have called : asked.next = .wait _ :=
    congrArg Prod.snd (Turn.calls_ranking occasion routeOf_negativeRequest)
  have takes : look.occasion.stages = [.entering 1 (.answer negativeRequest (.ranking (-3)))] := by
    rw [Turn.occasion_of_looksFor? looked]
    rfl
  -- The look is the turn behind the call.
  have behind : look ∈ past.drop 4 := by
    rw [List.mem_iff_getElem?]
    exact ⟨0, by rw [List.getElem?_drop]; exact there⟩
  refine ⟨past, past.take 3, past.drop 4, asked, look, world, run, split_at here, occasion, ?_,
    List.singleton_sublist.mpr behind, run.due_of_mem (List.mem_of_mem_drop behind), found⟩
  rw [called]
  exact Strand.begin.step takes

end Sample

set_option maxRecDepth 100000 in
/-- With a scoreboard further below zero, a negative tick is answered like one that is yet to come. -/
theorem negative_tick_not_found :
    ∃ past earlier since asked look world response, Run Sample.backend Sample.start past world ∧
      past = earlier ++ asked :: since ∧
      asked.occasion = .call (.request Sample.negativeRequest) ∧
      Strand asked.next [look] (.done (.response response)) ∧ [look].Sublist since ∧
      response.status = 404 ∧ ¬ RankingRule (-3) look.before [asked, look] response := by
  -- The run is replayed up to the look, at a scoreboard tick of minus five.
  have replayed : (Sample.start.replay Sample.answers [] (Sample.negativeAsked (-5))).map
      (Sample.requestFacts ·.1) =
        some (some Sample.negativeRequest, some (Sample.negativeRequest, -3), some (-5)) := by
    decide +kernel
  obtain ⟨past, earlier, since, asked, look, world, run, parts, occasion, strand, inside, due,
    found⟩ := Sample.negativeAsked_strand replayed
  obtain ⟨_, _, _, done, _⟩ := strand.refused occasion Sample.routeOf_negativeRequest due
    (.inl (by decide))
  rw [found, if_pos (by decide)] at done
  have missing : (Response.ofError (.unpublishedTick (-3))).status = 404 := rfl
  rw [done] at strand
  exact ⟨past, earlier, since, asked, look, world, _, run, parts, occasion, strand, inside, missing,
    fun rule => absurd (rule.negative (by decide)) (by rw [missing]; decide)⟩

set_option maxRecDepth 100000 in
/-- With a scoreboard that is published, a negative tick is answered like one that does not exist. -/
theorem negative_tick_is_bad :
    ∃ past earlier since asked look world response, Run Sample.backend Sample.start past world ∧
      past = earlier ++ asked :: since ∧
      Strand asked.next [look] (.done (.response response)) ∧ response.status = 400 ∧
      RankingRule (-3) look.before [asked, look] response := by
  have replayed : (Sample.start.replay Sample.answers [] (Sample.negativeAsked 5)).map
      (Sample.requestFacts ·.1) =
        some (some Sample.negativeRequest, some (Sample.negativeRequest, -3), some 5) := by
    decide +kernel
  obtain ⟨past, earlier, since, asked, look, world, run, parts, occasion, strand, inside, due,
    found⟩ := Sample.negativeAsked_strand replayed
  obtain ⟨_, _, answered⟩ := ranking_requests_answered run parts occasion
    Sample.routeOf_negativeRequest strand inside
  obtain ⟨_, settled⟩ := answered look rfl
  -- The look refuses the request, and by the theorem the tick is a bad one.
  obtain ⟨_, _, _, done, _⟩ := strand.refused occasion Sample.routeOf_negativeRequest due
    (.inl (by decide))
  obtain ⟨bad, _, rule⟩ := settled _ done
  have below : (-3 : Tick) ≤ look.before.scoreboardTick := found ▸ by decide
  have started : -1 ≤ look.before.scoreboardTick := found ▸ by decide
  rw [done] at strand
  exact ⟨past, earlier, since, asked, look, world, _, run, parts, strand,
    bad.mpr ⟨by decide, below⟩, rule started⟩

end Scoreboard
