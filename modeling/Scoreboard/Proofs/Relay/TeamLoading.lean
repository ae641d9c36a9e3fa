import Scoreboard.Proofs.Notifications.Ahead
import Scoreboard.Proofs.Relay.Promptness
import Scoreboard.Proofs.Relay.Strand
import Scoreboard.Proofs.Relay.Trades

/-! Team loading: the directory is asked for until it is served, and then is what was served. -/

namespace Scoreboard

/-- A stage of the team loader. -/
def Stage.loadsTeams (stage : Stage) : Bool :=
  stage.trade? = some .teamLoader

/-- The moment at which a turn asks for the team directory. -/
def Turn.teamsRequest? (turn : Turn) : Option Nat :=
  match turn.next with
  | .wait (.loadingTeams _) => some turn.now.elapsed
  | _ => none

/-- The moment at which a turn gets a reply to such a request, and what the reply brings. -/
def Turn.teamsReply? (turn : Turn) : Option (Nat × Except ApiError TeamsDocument) :=
  match turn.occasion with
  | .reply (.loadingTeams _) reply => some (turn.now.elapsed, reply.document .teams .teams)
  | _ => none

/-- The moments at which the team directory is asked for. -/
def teamsRequests (past : List Turn) : List Nat :=
  past.filterMap Turn.teamsRequest?

/-- The replies to these requests, in their order. -/
def teamsReplies (past : List Turn) : List (Nat × Except ApiError TeamsDocument) :=
  past.filterMap Turn.teamsReply?

/-- How long after an attempt has failed the next one starts, the first attempt being number zero. -/
def teamsGap (attempt : Nat) : Nat :=
  -- Twenty retries make a series with the attempt in front of them, and a rest parts two series.
  if attempt % 21 = 0 then 5000 else 2000 + attempt % 21 * 1500

/-- Where the team loader waits before another attempt. -/
def teamsWait (attempt deadline : Nat) : Stage :=
  if attempt % 21 = 0 then .restingTeams deadline else .pausingTeams (attempt % 21) deadline

/-- The loader waits for the end of its pause or of its rest. -/
@[simp]
theorem teamsWait_wait (attempt deadline : Nat) :
    (teamsWait attempt deadline).wait = .time deadline := by
  unfold teamsWait
  split <;> rfl

/-- Who waits between two attempts at the directory loads it. -/
@[simp]
theorem teamsWait_loadsTeams (attempt deadline : Nat) :
    (teamsWait attempt deadline).loadsTeams = true := by
  unfold teamsWait
  split <;> rfl

/-- Nothing was served so far. -/
def NoneServed (replies : List (Nat × Except ApiError TeamsDocument)) : Prop :=
  ∀ reply ∈ replies, ∃ problem, reply.2 = .error problem

/-- Where the team loader stands at a moment, after its requests and the replies to them. -/
inductive LoaderStands (requests : List Nat) (replies : List (Nat × Except ApiError TeamsDocument))
    (moment : Nat) (teams : TeamsDocument) : List Stage → Prop
  | fresh (unasked : requests = []) (unanswered : replies = []) (start : moment = 0)
      (empty : teams = .empty) : LoaderStands requests replies moment teams [.starting .teamLoader]
  | asks (owed : requests.length = replies.length + 1) (failed : NoneServed replies)
      (empty : teams = .empty) :
      LoaderStands requests replies moment teams [.loadingTeams (replies.length % 21)]
  | waits (ended : Nat) (outcome : Except ApiError TeamsDocument)
      (last : replies.getLast? = some (ended, outcome)) (even : requests.length = replies.length)
      (failed : NoneServed replies) (ahead : moment ≤ ended + teamsGap replies.length)
      (empty : teams = .empty) :
      LoaderStands requests replies moment teams
        [teamsWait replies.length (ended + teamsGap replies.length)]
  | stores (earlier : List (Nat × Except ApiError TeamsDocument)) (ended : Nat)
      (document : TeamsDocument) (served : replies = earlier ++ [(ended, .ok document)])
      (even : requests.length = replies.length) (failed : NoneServed earlier)
      (start : moment = ended) (empty : teams = .empty) :
      LoaderStands requests replies moment teams [.entering 1 (.storeTeams document)]
  | ended (earlier : List (Nat × Except ApiError TeamsDocument)) (ended : Nat)
      (document : TeamsDocument) (served : replies = earlier ++ [(ended, .ok document)])
      (even : requests.length = replies.length) (failed : NoneServed earlier)
      (stored : teams = .withIds document) : LoaderStands requests replies moment teams []

/-- The first attempt starts at once, and every other one its gap after the one before has ended. -/
structure TeamsPaced (requests : List Nat)
    (replies : List (Nat × Except ApiError TeamsDocument)) : Prop where
  first : ∀ request, requests[0]? = some request → request = 0
  gaps : ∀ attempt request, requests[attempt + 1]? = some request →
    ∃ ended outcome, replies[attempt]? = some (ended, outcome) ∧
      request = ended + teamsGap (attempt + 1)

namespace Turn

variable {turn : Turn} {attempt deadline : Nat} {reply : Reply} {document : TeamsDocument}

/-- A loader that starts asks at once. -/
theorem result_of_begin (occasion : turn.occasion = .ready (.starting .teamLoader)) :
    turn.result = (turn.before, .wait (.loadingTeams 0)) := by
  simp only [Turn.result, occasion, Relay.resume, Relay.begin]

/-- Behind a pause and behind a rest comes another attempt. -/
theorem result_of_teamsWait (occasion : turn.occasion = .ready (teamsWait attempt deadline)) :
    turn.result = (turn.before, .wait (.loadingTeams (attempt % 21))) := by
  -- Behind a rest the retries are counted anew.
  unfold teamsWait at occasion
  split at occasion
  · rename_i fresh
    simp only [Turn.result, occasion, Relay.resume, fresh]
  · simp only [Turn.result, occasion, Relay.resume]

/-- The next request is made at the end of the wait. -/
theorem teamsRequest?_behind_teamsWait
    (occasion : turn.occasion = .ready (teamsWait attempt deadline)) :
    turn.teamsRequest? = some turn.now.elapsed := by
  simp [teamsRequest?, Turn.next, result_of_teamsWait occasion]

/-- A turn without a reply brings no directory. -/
theorem teamsReply?_of_ready {stage : Stage} (occasion : turn.occasion = .ready stage) :
    turn.teamsReply? = none := by
  simp [teamsReply?, occasion]

/-- A failure leads to a pause, and the last one of a series to a rest. -/
theorem result_of_failed {problem : ApiError}
    (occasion : turn.occasion = .reply (.loadingTeams (attempt % 21)) reply)
    (failed : reply.document .teams .teams = .error problem) :
    turn.result = (turn.before,
      .wait (teamsWait (attempt + 1) (turn.now.elapsed + teamsGap (attempt + 1)))) := by
  -- Attempts are counted through, so that the retries of a series are a remainder.
  simp only [Turn.result, occasion, Relay.resumeWithReply, failed, Relay.continueTeams,
    RetryPolicy.afterFailure, teamsWait, teamsGap]
  by_cases left : attempt % 21 < 20
  · have next : (attempt + 1) % 21 = attempt % 21 + 1 := by omega
    simp [Endpoint.policy, left, next, RetryPolicy.delayBefore, defaultRetryStep]
    omega
  · have next : (attempt + 1) % 21 = 0 := by omega
    simp [Endpoint.policy, left, next, teamsRest]

/-- Nobody asks for anything at such a wait. -/
theorem teamsRequest?_of_teamsWait (next : turn.next = .wait (teamsWait attempt deadline)) :
    turn.teamsRequest? = none := by
  unfold teamsWait at next
  split at next <;> simp [teamsRequest?, next]

/-- A directory that is served is to be stored next. -/
theorem result_of_served {retry : Nat}
    (occasion : turn.occasion = .reply (.loadingTeams retry) reply)
    (served : reply.document .teams .teams = .ok document) :
    turn.result = (turn.before, .wait (.entering 1 (.storeTeams document))) := by
  simp only [Turn.result, occasion, Relay.resumeWithReply, served, Relay.continueTeams, Relay.enter]

/-- The directory that is stored is the one that was served, with its ids. -/
theorem result_of_storeTeams
    (occasion : turn.occasion = .ready (.entering 1 (.storeTeams document))) :
    turn.result = ({ turn.before with teams := .withIds document }, .done .nothing) := by
  simp [Turn.result, occasion, Relay.resume, Relay.perform]

/-- Only the team loader writes the directory. -/
theorem Deed.teams_cases (deed : turn.Deed) : turn.after.teams = turn.before.teams ∨
    ∃ parts document, turn.occasion = .ready (.entering parts (.storeTeams document)) := by
  cases deed with
  | learns teams plain after parts document occasion => exact .inr ⟨parts, document, occasion⟩
  -- Some deeds have laws of their own for what they leave alone.
  | settles parts use tick snapshot occasion last after =>
    obtain ⟨rounds, histories, events, settled⟩ := turn.before.settleRound_eq tick snapshot.round
    exact .inl (by rw [after, settled])
  | absorbs parts again response occasion plain after =>
    obtain ⟨bus, hub, signals, absorbed⟩ :=
      turn.before.absorbState_eq response turn.now.unix turn.jitter
    exact .inl (by rw [after, absorbed])
  | misses plain after =>
    obtain ⟨hub, signals, missed⟩ := turn.before.missState_eq
    exact .inl (by rw [after, missed])
  | dismisses plain after =>
    obtain ⟨hub, signals, changed⟩ := turn.before.overlayChanged_eq _
    exact .inl (by rw [after, Relay.dismissBanner, changed])
  | runsOut timer plain after =>
    obtain ⟨hub, signals, changed⟩ := turn.before.overlayChanged_eq _
    exact .inl (by rw [after, Relay.runOut_eq, changed])
  | _ =>
    have after := ‹turn.after = _›
    exact .inl ((congrArg Relay.teams after).trans rfl)

/-- The turn of another task has nothing to do with the directory. -/
structure Aloof (turn : Turn) : Prop where
  unasked : turn.teamsRequest? = none
  unanswered : turn.teamsReply? = none
  teams : turn.after.teams = turn.before.teams
  next : turn.next.stages.filter Stage.loadsTeams = []

/-- A turn of anybody else is none of the loader. -/
theorem Deed.aloof (deed : turn.Deed) (uncalled : turn.occasion ≠ .call (.start .teamLoader))
    (other : ∀ stage ∈ turn.occasion.stages, stage.loadsTeams = false) : turn.Aloof := by
  -- Who is no team loader in front of the turn is none behind it.
  have next : ∀ stage, turn.next = .wait stage → stage.loadsTeams = false := by
    intro stage ends
    rw [Bool.eq_false_iff]
    intro loads
    have trade : turn.next.trade? = some .teamLoader := by
      rw [ends]
      exact of_decide_eq_true loads
    rcases trade_cases trade with ⟨own, takes, trade⟩ | called
    · have idle := other own (takes ▸ List.mem_singleton_self own)
      rw [Stage.loadsTeams, trade] at idle
      cases idle
    · exact uncalled called
  refine ⟨?_, ?_, ?_, ?_⟩
  · unfold teamsRequest?
    split
    · rename_i ends
      cases next _ ends
    · rfl
  · unfold teamsReply?
    split
    · rename_i occasion
      cases other _ (by rw [occasion]; exact List.mem_singleton_self _)
    · rfl
  · rcases deed.teams_cases with same | ⟨parts, document, occasion⟩
    · exact same
    · cases other _ (by rw [occasion]; exact List.mem_singleton_self _)
  · cases ends : turn.next with
    | wait stage => simp [Next.stages, next stage ends]
    | done outcome => rfl

end Turn

/-- The requests for the directory after one more turn. -/
theorem teamsRequests_concat (past : List Turn) (turn : Turn) :
    teamsRequests (past ++ [turn]) = teamsRequests past ++ turn.teamsRequest?.toList := by
  simp only [teamsRequests, List.filterMap_append, List.filterMap_cons, List.filterMap_nil]
  cases turn.teamsRequest? <;> rfl

/-- The replies to these requests after one more turn. -/
theorem teamsReplies_concat (past : List Turn) (turn : Turn) :
    teamsReplies (past ++ [turn]) = teamsReplies past ++ turn.teamsReply?.toList := by
  simp only [teamsReplies, List.filterMap_append, List.filterMap_cons, List.filterMap_nil]
  cases turn.teamsReply? <;> rfl

section Standing

variable {requests : List Nat} {replies : List (Nat × Except ApiError TeamsDocument)}
  {moment : Nat} {teams : TeamsDocument} {stages : List Stage}

/-- A reply more leaves the requests in their paces. -/
theorem TeamsPaced.answered (paced : TeamsPaced requests replies)
    (reply : Nat × Except ApiError TeamsDocument) : TeamsPaced requests (replies ++ [reply]) := by
  -- The earlier replies keep their places.
  refine ⟨paced.first, fun attempt request made => ?_⟩
  obtain ⟨ended, outcome, answered, starts⟩ := paced.gaps attempt request made
  have inside := (List.getElem?_eq_some_iff.mp answered).1
  exact ⟨ended, outcome, by rw [List.getElem?_append_left inside, answered], starts⟩

/-- The next attempt may be made once its gap behind the last reply is over. -/
theorem TeamsPaced.asked {ended : Nat} {outcome : Except ApiError TeamsDocument}
    (paced : TeamsPaced requests replies) (last : replies.getLast? = some (ended, outcome))
    (even : requests.length = replies.length) :
    TeamsPaced (requests ++ [ended + teamsGap replies.length]) replies := by
  -- A request is one of those before, or the newest, which comes behind the last reply.
  have asked : 0 < requests.length := by
    rw [even]
    exact List.length_pos_of_mem (List.mem_of_getLast? last)
  refine ⟨fun request made => ?_, fun attempt request made => ?_⟩
  · rw [List.getElem?_append_left asked] at made
    exact paced.first request made
  rcases Nat.lt_trichotomy (attempt + 1) requests.length with before | newest | behind
  · rw [List.getElem?_append_left before] at made
    exact paced.gaps attempt request made
  · -- The new attempt comes behind the last reply.
    rw [newest, List.getElem?_concat_length] at made
    cases made
    rw [List.getLast?_eq_getElem?] at last
    exact ⟨ended, outcome, by rw [← last]; congr 1; omega, by rw [newest, even]⟩
  · rw [List.getElem?_eq_none (by rw [List.length_append]; exact behind)] at made
    cases made

/-- The team loader still stands where it should after time has passed. -/
theorem LoaderStands.passes {world : World} {later : Nat}
    (stands : LoaderStands requests replies world.elapsed teams stages)
    (waits : ∀ stage ∈ stages, stage ∈ world.tasks) (since : world.elapsed ≤ later)
    (idle : world.WaitsUntil later) : LoaderStands requests replies later teams stages := by
  cases stands with
  | fresh unasked unanswered start empty =>
    -- The loader could have its turn at once, so no time has passed.
    have hurried := idle.le_of_met (waits _ (List.mem_singleton_self _)) (Nat.le_refl _) rfl
    exact .fresh unasked unanswered (by omega) empty
  | asks owed failed empty => exact .asks owed failed empty
  | waits ended outcome last even failed ahead empty =>
    have met : world.relay.meets (ended + teamsGap replies.length)
        (teamsWait replies.length (ended + teamsGap replies.length)).wait = true := by
      simp [Relay.meets]
    exact .waits ended outcome last even failed
      (idle.le_of_met (waits _ (List.mem_singleton_self _)) ahead met) empty
  | stores earlier ended document served even failed start empty =>
    have hurried := idle.le_of_met (waits _ (List.mem_singleton_self _)) (Nat.le_refl _) rfl
    exact .stores earlier ended document served even failed (by omega) empty
  | ended earlier ended document served even failed stored =>
    exact .ended earlier ended document served even failed stored

/-- Behind a failed attempt the loader waits until the gap is over. -/
theorem LoaderStands.of_failed (moment : Nat) (owed : requests.length = replies.length + 1)
    (failed : NoneServed replies) (problem : ApiError) (empty : teams = .empty) :
    LoaderStands requests (replies ++ [(moment, .error problem)]) moment teams
      [teamsWait (replies.length + 1) (moment + teamsGap (replies.length + 1))] := by
  -- There are as many replies as requests now, and none of them served.
  have more : replies.length + 1 =
      (replies ++ [(moment, (.error problem : Except ApiError TeamsDocument))]).length := by simp
  have none : NoneServed (replies ++ [(moment, .error problem)]) :=
    List.forall_mem_append.mpr ⟨failed, List.forall_mem_singleton.mpr ⟨problem, rfl⟩⟩
  rw [more]
  exact .waits moment _ List.getLast?_concat (owed.trans more) none (Nat.le_add_right _ _) empty

/-- The team loader is one task, or has ended. -/
theorem LoaderStands.length_le (stands : LoaderStands requests replies moment teams stages) :
    stages.length ≤ 1 := by
  cases stands <;> simp

end Standing

/-- The team loader stands where it should, and has kept its gaps. -/
structure World.LoadsTeams (world : World) (past : List Turn) : Prop where
  stands : LoaderStands (teamsRequests past) (teamsReplies past) world.elapsed world.relay.teams
    (world.tasks.filter Stage.loadsTeams)
  paced : TeamsPaced (teamsRequests past) (teamsReplies past)

section Steps

variable {backend : Backend} {world later : World} {turn : Turn} {past : List Turn}

/-- No turn starts a team loader. -/
theorem Turn.Deed.started_filter (deed : turn.Deed) (quiet : turn.before.signals = []) :
    turn.after.startedStages.filter Stage.loadsTeams = [] := by
  -- What a turn starts are timers or a celebration.
  rw [List.filter_eq_nil_iff]
  intro stage member
  rcases deed.started_cases quiet with timers | ⟨tick, _, started⟩
  · obtain ⟨timer, rfl⟩ := timers stage member
    exact Bool.false_ne_true
  · obtain rfl := List.mem_singleton.mp (started ▸ member)
    exact Bool.false_ne_true

/-- A turn is that of the only team loader, or leaves it alone. -/
theorem World.Step.loader_cases (step : world.Step backend turn later)
    (quiet : world.relay.signals = []) (uncalled : turn.occasion ≠ .call (.start .teamLoader))
    (single : (world.tasks.filter Stage.loadsTeams).length ≤ 1) :
    (turn.Aloof ∧
      later.tasks.filter Stage.loadsTeams = world.tasks.filter Stage.loadsTeams) ∨
    ∃ stage, turn.occasion.stages = [stage] ∧ world.tasks.filter Stage.loadsTeams = [stage] ∧
      later.tasks.filter Stage.loadsTeams = turn.next.stages.filter Stage.loadsTeams := by
  obtain ⟨left, right, earlier, now⟩ := step.tasks
  have started := step.deed.started_filter (step.before ▸ quiet)
  have before := congrArg (List.filter Stage.loadsTeams) earlier
  have behind := congrArg (List.filter Stage.loadsTeams) now
  simp only [List.filter_append, started, List.append_nil] at before behind
  cases own : turn.occasion.stages.filter Stage.loadsTeams with
  | nil =>
    have aloof := step.deed.aloof uncalled (by simpa using own)
    rw [aloof.next] at behind
    rw [own] at before
    exact .inl ⟨aloof, behind.trans before.symm⟩
  | cons stage rest =>
    -- There is no loader but this one, so that none stands on its left or right.
    rw [own] at before
    simp only [before, List.length_append, List.length_cons] at single
    have leftNone := List.length_eq_zero_iff.mp
      (show (left.filter Stage.loadsTeams).length = 0 by omega)
    have rightNone := List.length_eq_zero_iff.mp
      (show (right.filter Stage.loadsTeams).length = 0 by omega)
    obtain rfl := List.length_eq_zero_iff.mp (show rest.length = 0 by omega)
    rw [leftNone, rightNone] at before behind
    simp only [List.nil_append, List.append_nil] at before behind
    refine .inr ⟨stage, ?_, before, behind⟩
    -- An occasion takes one task at most.
    have taken : stage ∈ turn.occasion.stages :=
      List.mem_of_mem_filter (own ▸ List.mem_singleton_self stage)
    cases occasion : turn.occasion with
    | call call => simp [occasion, Occasion.stages] at taken
    | ready other => simp_all [Occasion.stages]
    | reply other reply => simp_all [Occasion.stages]

/-- Where the loader stands behind its own turn, by what that turn asks, gets and comes to. -/
theorem World.LoadsTeams.behind {result : Relay × Next} {asked : Option Nat}
    {answered : Option (Nat × Except ApiError TeamsDocument)} (step : world.Step backend turn later)
    (tasks : later.tasks.filter Stage.loadsTeams = turn.next.stages.filter Stage.loadsTeams)
    (comes : turn.result = result) (asks : turn.teamsRequest? = asked)
    (gets : turn.teamsReply? = answered)
    (stands : LoaderStands (teamsRequests past ++ asked.toList)
      (teamsReplies past ++ answered.toList) turn.now.elapsed result.1.teams
      (result.2.stages.filter Stage.loadsTeams))
    (paced : TeamsPaced (teamsRequests past ++ asked.toList)
      (teamsReplies past ++ answered.toList)) : later.LoadsTeams (past ++ [turn]) := by
  -- The requests and replies grow by those of the turn.
  subst comes asks gets
  have teams : later.relay.teams = turn.result.1.teams := by rw [step.relay]; rfl
  constructor
  · rw [teamsRequests_concat, teamsReplies_concat, step.elapsed, teams, tasks]
    exact stands
  · rw [teamsRequests_concat, teamsReplies_concat]
    exact paced

/-- The reply to an attempt brings the directory, or has the loader wait for another attempt. -/
theorem World.LoadsTeams.answered (step : world.Step backend turn later)
    (takes : turn.occasion.stages = [.loadingTeams ((teamsReplies past).length % 21)])
    (tasks : later.tasks.filter Stage.loadsTeams = turn.next.stages.filter Stage.loadsTeams)
    (owed : (teamsRequests past).length = (teamsReplies past).length + 1)
    (failed : NoneServed (teamsReplies past)) (empty : turn.before.teams = .empty)
    (paced : TeamsPaced (teamsRequests past) (teamsReplies past)) :
    later.LoadsTeams (past ++ [turn]) := by
  -- The reply is the news of the turn, and there is a document in it or a problem.
  obtain ⟨reply, occasion⟩ := turn.reply_of_takes step.due takes rfl
  have gets : turn.teamsReply? = some (turn.now.elapsed, reply.document .teams .teams) := by
    simp [Turn.teamsReply?, occasion]
  have paced := paced.answered (turn.now.elapsed, reply.document .teams .teams)
  cases outcome : reply.document .teams .teams with
  | error problem =>
    have comes := turn.result_of_failed occasion outcome
    have asks := turn.teamsRequest?_of_teamsWait (congrArg Prod.snd comes)
    refine .behind step tasks comes asks gets ?_ (by simpa using paced)
    simpa [outcome, Next.stages] using
      LoaderStands.of_failed turn.now.elapsed owed failed problem empty
  | ok document =>
    have comes := turn.result_of_served occasion outcome
    have asks : turn.teamsRequest? = none := by simp [Turn.teamsRequest?, Turn.next, comes]
    refine .behind step tasks comes asks gets ?_ (by simpa using paced)
    exact .stores (teamsReplies past) turn.now.elapsed document (by rw [outcome]; rfl)
      (by simpa using owed) failed rfl empty

/-- Each turn of the loader leads it from one of its stages to the next. -/
theorem World.LoadsTeams.own {stage : Stage} (step : world.Step backend turn later)
    (takes : turn.occasion.stages = [stage])
    (tasks : later.tasks.filter Stage.loadsTeams = turn.next.stages.filter Stage.loadsTeams)
    (stands : LoaderStands (teamsRequests past) (teamsReplies past) turn.now.elapsed
      turn.before.teams [stage])
    (paced : TeamsPaced (teamsRequests past) (teamsReplies past)) :
    later.LoadsTeams (past ++ [turn]) := by
  -- The cases are the stages at which the loader may stand, and each has its own turn.
  generalize same : [stage] = stages at stands
  cases stands with
  | fresh unasked unanswered start empty =>
    cases same
    have occasion := turn.ready_of_takes step.due takes (by simp [Stage.wait])
    have comes := turn.result_of_begin occasion
    have asks : turn.teamsRequest? = some turn.now.elapsed := by
      simp [Turn.teamsRequest?, Turn.next, comes]
    refine .behind step tasks comes asks (turn.teamsReply?_of_ready occasion) ?_ ?_
    · rw [unasked, unanswered]
      exact .asks rfl (List.forall_mem_nil _) empty
    · rw [unasked, unanswered, start]
      exact ⟨fun request made => by simpa using made.symm,
        fun attempt request made => by simp at made⟩
  | asks owed failed empty =>
    cases same
    exact .answered step takes tasks owed failed empty paced
  | waits ended outcome last even failed ahead empty =>
    cases same
    have occasion := turn.ready_of_takes step.due takes (by simp)
    have comes := turn.result_of_teamsWait occasion
    have asks := turn.teamsRequest?_behind_teamsWait occasion
    -- The loader comes no earlier than it may, and no later either.
    have punctual : turn.now.elapsed = ended + teamsGap (teamsReplies past).length := by
      have due := step.due
      simp only [Turn.IsDue, occasion, teamsWait_wait, Relay.meets, decide_eq_true_eq] at due
      omega
    have stands : LoaderStands (teamsRequests past ++ [turn.now.elapsed]) (teamsReplies past)
        turn.now.elapsed turn.before.teams [.loadingTeams ((teamsReplies past).length % 21)] :=
      .asks (by simp [even]) failed empty
    refine .behind step tasks comes asks (turn.teamsReply?_of_ready occasion) ?_ ?_
    · simpa [Next.stages, Stage.loadsTeams, Stage.trade?] using stands
    · simpa [punctual] using paced.asked last even
  | stores earlier ended document served even failed start empty =>
    cases same
    have occasion := turn.ready_of_takes step.due takes (by simp [Stage.wait])
    have comes := turn.result_of_storeTeams occasion
    have asks : turn.teamsRequest? = none := by simp [Turn.teamsRequest?, Turn.next, comes]
    refine .behind step tasks comes asks (turn.teamsReply?_of_ready occasion) ?_
      (by simpa using paced)
    exact .ended earlier ended document (by simpa using served) (by simpa using even) failed rfl
  | ended earlier ended document served even failed stored => cases same

/-- The only loader keeps to its stages and gaps through a turn that comes when it may. -/
theorem World.LoadsTeams.step (loads : world.LoadsTeams past)
    (waits : world.WaitsUntil turn.now.elapsed) (step : world.Step backend turn later)
    (quiet : world.relay.signals = []) (uncalled : turn.occasion ≠ .call (.start .teamLoader)) :
    later.LoadsTeams (past ++ [turn]) := by
  -- The turn is somebody else's, or the loader takes up the stage that it stands at.
  have stands := loads.stands.passes (fun stage member => List.mem_of_mem_filter member)
    step.clock waits
  rcases step.loader_cases quiet uncalled loads.stands.length_le with
    ⟨aloof, same⟩ | ⟨stage, takes, before, tasks⟩
  · -- The turn of another task changes nothing that the loader depends on.
    have teams : later.relay.teams = world.relay.teams := by
      rw [step.relay, ← step.before, ← aloof.teams]
      rfl
    constructor
    · rw [teamsRequests_concat, teamsReplies_concat, aloof.unasked, aloof.unanswered, same,
        step.elapsed, teams]
      simpa using stands
    · rw [teamsRequests_concat, teamsReplies_concat, aloof.unasked, aloof.unanswered]
      simpa using loads.paced
  · exact .own step takes tasks (step.before ▸ before ▸ stands) loads.paced

/-- The only loader of a run keeps to its stages and gaps. -/
theorem PromptRun.loadsTeams {start : World} (prompt : PromptRun backend start past world)
    (fresh : start.LoadsTeams []) (quiet : start.relay.signals = [])
    (uncalled : ∀ turn ∈ past, turn.occasion ≠ .call (.start .teamLoader)) :
    world.LoadsTeams past := by
  -- The induction is on the run, whose every turn comes when it may.
  induction prompt with
  | begin => exact fresh
  | @step past world later turn prompt waits step ih =>
    have before := ih fun earlier member => uncalled earlier (List.mem_append_left _ member)
    exact before.step waits step (prompt.run.quiet quiet) (uncalled turn (by simp))

/-- A relay with one loader begins with an empty directory and nothing asked. -/
theorem World.loadsTeams_initial {tasks : List NewTask} (notificationInterval : Nat)
    (preferences : Preferences) (single : tasks.count .teamLoader = 1) :
    (World.initial notificationInterval preferences tasks).LoadsTeams [] := by
  -- Of the tasks at first, those of the loader are as many as were to be started.
  have own : (World.initial notificationInterval preferences tasks).tasks.filter
      Stage.loadsTeams = [.starting .teamLoader] := by
    have kind : Stage.loadsTeams ∘ Stage.starting = (· == NewTask.teamLoader) := by
      funext task
      cases task <;> rfl
    rw [World.initial, List.filter_map, kind, List.filter_beq, single]
    rfl
  constructor
  · rw [own]
    exact .fresh rfl rfl rfl rfl
  · exact ⟨fun request made => (nomatch made), fun attempt request made => (nomatch made)⟩

end Steps

/-- When an attempt starts if each one takes its time: behind the gap after the one before. -/
def teamsStart (takes : Nat → Nat) : Nat → Nat
  | 0 => 0
  | attempt + 1 => teamsStart takes attempt + takes attempt + teamsGap (attempt + 1)

/-- Every request is replied to within its time. -/
structure RepliedWithin (takes : Nat → Nat) (requests : List Nat)
    (replies : List (Nat × Except ApiError TeamsDocument)) (moment : Nat) : Prop where
  closed : ∀ attempt request reply, requests[attempt]? = some request →
    replies[attempt]? = some reply → reply.1 ≤ request + takes attempt
  pending : ∀ attempt request, requests[attempt]? = some request → replies[attempt]? = none →
    moment ≤ request + takes attempt

section Ends

variable {takes : Nat → Nat} {requests : List Nat}
  {replies : List (Nat × Except ApiError TeamsDocument)} {moment : Nat}

/-- Later attempts end later. -/
theorem teamsStart_le (takes : Nat → Nat) {attempt served : Nat} (before : attempt ≤ served) :
    teamsStart takes attempt + takes attempt ≤ teamsStart takes served + takes served := by
  -- An attempt starts no sooner than the one before ends.
  induction before with
  | refl => exact Nat.le_refl _
  | step before ih =>
    simp only [teamsStart]
    omega

/-- An attempt starts no later than if each one before had taken all of its time. -/
theorem TeamsPaced.starts_le (paced : TeamsPaced requests replies)
    (within : RepliedWithin takes requests replies moment) {attempt request : Nat}
    (made : requests[attempt]? = some request) : request ≤ teamsStart takes attempt := by
  -- The induction is on the attempts, each of which starts its gap behind the one before.
  induction attempt generalizing request with
  | zero => exact Nat.le_of_eq (paced.first request made)
  | succ attempt ih =>
    obtain ⟨ended, outcome, answered, starts⟩ := paced.gaps attempt request made
    obtain ⟨inside, _⟩ := List.getElem?_eq_some_iff.mp made
    have asked := List.getElem?_eq_getElem (show attempt < requests.length by omega)
    have closed := within.closed _ _ _ asked answered
    have started := ih asked
    simp only [teamsStart]
    omega

/-- An attempt ends no later than if each one up to it had taken all of its time. -/
theorem TeamsPaced.ends_le (paced : TeamsPaced requests replies)
    (within : RepliedWithin takes requests replies moment) (even : requests.length = replies.length)
    {attempt ended : Nat} {outcome : Except ApiError TeamsDocument}
    (answered : replies[attempt]? = some (ended, outcome)) :
    ended ≤ teamsStart takes attempt + takes attempt := by
  -- The attempt was asked for in time and answered within its time.
  obtain ⟨inside, _⟩ := List.getElem?_eq_some_iff.mp answered
  have asked := List.getElem?_eq_getElem (show attempt < requests.length by omega)
  have closed := within.closed _ _ _ asked answered
  have started := paced.starts_le within asked
  omega

variable {outcomes : Nat → Except ApiError TeamsDocument} {served : Nat} {document : TeamsDocument}

/-- While nothing is served, all attempts come before the one that is. -/
theorem NoneServed.length_le (none : NoneServed replies)
    (as : ∀ attempt reply, replies[attempt]? = some reply → reply.2 = outcomes attempt)
    (success : outcomes served = .ok document) : replies.length ≤ served := by
  -- The attempt that is served would be among those that failed.
  apply Nat.le_of_not_lt
  intro inside
  obtain ⟨problem, error⟩ := none _ (List.getElem_mem inside)
  rw [as _ _ (List.getElem?_eq_getElem inside), success] at error
  cases error

/-- What is served first is the document of the first attempt that is served. -/
theorem NoneServed.served_eq {earlier : List (Nat × Except ApiError TeamsDocument)} {ended : Nat}
    {other : TeamsDocument} (none : NoneServed earlier)
    (whole : replies = earlier ++ [(ended, .ok other)])
    (as : ∀ attempt reply, replies[attempt]? = some reply → reply.2 = outcomes attempt)
    (failed : ∀ attempt < served, ∃ problem, outcomes attempt = .error problem)
    (success : outcomes served = .ok document) : earlier.length = served ∧ other = document := by
  -- No attempt is served before the one, and the last one here is.
  subst whole
  have last : .ok other = outcomes earlier.length := as _ _ List.getElem?_concat_length
  have upper : earlier.length ≤ served := by
    refine none.length_le (fun attempt reply found => as attempt reply ?_) success
    rw [List.getElem?_append_left (List.getElem?_eq_some_iff.mp found).1, found]
  have lower : served ≤ earlier.length := by
    apply Nat.le_of_not_lt
    intro early
    obtain ⟨problem, error⟩ := failed _ early
    cases last.trans error
  obtain rfl := Nat.le_antisymm upper lower
  exact ⟨rfl, Except.ok.inj (last.trans success)⟩

/-- A loader under way is in front of the end of its last attempt. -/
theorem LoaderStands.moment_le {teams : TeamsDocument} {stages : List Stage}
    (stands : LoaderStands requests replies moment teams stages)
    (paced : TeamsPaced requests replies) (within : RepliedWithin takes requests replies moment)
    (as : ∀ attempt reply, replies[attempt]? = some reply → reply.2 = outcomes attempt)
    (failed : ∀ attempt < served, ∃ problem, outcomes attempt = .error problem)
    (success : outcomes served = .ok document) (underWay : stages ≠ []) :
    moment ≤ teamsStart takes served + takes served := by
  cases stands with
  | fresh unasked unanswered start empty => omega
  | asks owed none empty =>
    have asked := List.getElem?_eq_getElem (show replies.length < requests.length by omega)
    have pending := within.pending _ _ asked (List.getElem?_eq_none (Nat.le_refl _))
    have started := paced.starts_le within asked
    have before := teamsStart_le takes (none.length_le as success)
    omega
  | waits ended outcome last even none ahead empty =>
    -- The gap leads from the end of the last attempt to the start of the next one.
    obtain ⟨attempt, more⟩ := Nat.exists_eq_add_one_of_ne_zero
      (Nat.ne_of_gt (List.length_pos_of_mem (List.mem_of_getLast? last)))
    rw [List.getLast?_eq_getElem?, more, Nat.add_sub_cancel] at last
    have ends := paced.ends_le within even last
    have before := teamsStart_le takes (none.length_le as success)
    rw [more] at ahead before
    simp only [teamsStart] at before
    omega
  | stores earlier ended other whole even none start empty =>
    obtain ⟨rfl, _⟩ := none.served_eq whole as failed success
    have answered : replies[earlier.length]? = some (ended, .ok other) := by
      rw [whole, List.getElem?_concat_length]
    have ends := paced.ends_le within even answered
    omega
  | ended => exact absurd rfl underWay

/-- How far the loader has come, when the first attempt to be served is known. -/
theorem LoaderStands.outcome {teams : TeamsDocument} {stages : List Stage}
    (stands : LoaderStands requests replies moment teams stages)
    (as : ∀ attempt reply, replies[attempt]? = some reply → reply.2 = outcomes attempt)
    (failed : ∀ attempt < served, ∃ problem, outcomes attempt = .error problem)
    (success : outcomes served = .ok document) :
    requests.length ≤ served + 1 ∧ (stages ≠ [] → teams = .empty) ∧
      (stages = [] → teams = .withIds document ∧ requests.length = served + 1 ∧
        replies.length = served + 1) := by
  -- The cases are the stages of the loader, with the counts that each one says.
  cases stands with
  | fresh unasked unanswered start empty => simp [unasked, empty]
  | asks owed none empty =>
    have before := none.length_le as success
    exact ⟨by omega, fun _ => empty, fun ends => nomatch ends⟩
  | waits ended outcome last even none ahead empty =>
    have before := none.length_le as success
    exact ⟨by omega, fun _ => empty, fun ends => nomatch ends⟩
  | stores earlier ended other whole even none start empty =>
    obtain ⟨rfl, _⟩ := none.served_eq whole as failed success
    exact ⟨by simp [even, whole], fun _ => empty, fun ends => nomatch ends⟩
  | ended earlier ended other whole even none stored =>
    obtain ⟨rfl, rfl⟩ := none.served_eq whole as failed success
    exact ⟨by simp [even, whole], fun underWay => absurd rfl underWay,
      fun _ => ⟨stored, by simp [even, whole], by simp [whole]⟩⟩

end Ends

/-- A backend that answers requests for the directory only, with given replies. -/
def teamsBackend (replies : Nat → Reply) : Backend :=
  fun endpoint reply => endpoint = .teams ∧ ∃ attempt, reply = replies attempt

/-- What an attempt brings that gets a reply from a sequence of them. -/
def teamsOutcome (replies : Nat → Reply) (attempt : Nat) : Except ApiError TeamsDocument :=
  (replies attempt).document .teams .teams

/-- A loader without other tasks waits for the reply to an attempt, each one before having failed. -/
structure World.AsksAlone (takes : Nat → Nat) (replies : Nat → Reply) (attempt : Nat)
    (past : List Turn) (world : World) : Prop where
  tasks : world.tasks = [.loadingTeams (attempt % 21)]
  elapsed : world.elapsed = teamsStart takes attempt
  quiet : world.relay.signals = []
  uncalled : ∀ turn ∈ past, turn.occasion ≠ .call (.start .teamLoader)
  requests : teamsRequests past = (List.range (attempt + 1)).map (teamsStart takes)
  answers : teamsReplies past = (List.range attempt).map fun earlier =>
    (teamsStart takes earlier + takes earlier, teamsOutcome replies earlier)

section Alone

variable {backend : Backend} {start world : World} {past : List Turn}

/-- A turn that a relay has at a moment. -/
def Relay.turnAt (relay : Relay) (moment : Nat) (occasion : Occasion) : Turn :=
  ⟨⟨moment, 0⟩, 0.0, occasion, relay⟩

/-- The only task of a relay has its turn as soon as it can. -/
theorem PromptRun.alone {stage : Stage} {occasion : Occasion} {moment : Nat} {relay : Relay}
    {next : Next} (prompt : PromptRun backend start past world) (only : world.tasks = [stage])
    (takes : occasion.stages = [stage]) (due : (world.relay.turnAt moment occasion).IsDue backend)
    (clock : world.elapsed ≤ moment)
    (idle : ∀ earlier, world.elapsed ≤ earlier → earlier < moment →
      world.relay.meets earlier stage.wait = false)
    (comes : (world.relay.turnAt moment occasion).result = (relay, next))
    (silent : relay.signals = []) :
    PromptRun backend start (past ++ [world.relay.turnAt moment occasion])
      ⟨relay.clearSignals, next.stages, moment⟩ := by
  -- No other task can have its turn before, so that the step is prompt.
  have after : (world.relay.turnAt moment occasion).after = relay := congrArg Prod.fst comes
  have ends : (world.relay.turnAt moment occasion).next = next := congrArg Prod.snd comes
  refine prompt.step (fun earlier since soon other member => ?_)
    ⟨rfl, due, clock, rfl, ?_, [], [], ?_, ?_⟩
  · rw [only, List.mem_singleton] at member
    exact member ▸ idle earlier since soon
  · rw [after]
  · simp [only, Relay.turnAt, takes]
  · simp [ends, after, Relay.startedStages, silent]

/-- The only task has its turn when what it waits for is there, and was not before. -/
theorem PromptRun.alone_ready {stage : Stage} {moment : Nat} {relay : Relay} {next : Next}
    (prompt : PromptRun backend start past world) (only : world.tasks = [stage])
    (met : world.relay.meets moment stage.wait = true) (clock : world.elapsed ≤ moment)
    (idle : ∀ earlier, world.elapsed ≤ earlier → earlier < moment →
      world.relay.meets earlier stage.wait = false)
    (comes : (world.relay.turnAt moment (.ready stage)).result = (relay, next))
    (silent : relay.signals = []) :
    PromptRun backend start (past ++ [world.relay.turnAt moment (.ready stage)])
      ⟨relay.clearSignals, next.stages, moment⟩ :=
  prompt.alone only rfl met clock idle comes silent

/-- The only task has its turn when a reply comes. -/
theorem PromptRun.alone_reply {stage : Stage} {endpoint : Endpoint} {reply : Reply} {moment : Nat}
    {relay : Relay} {next : Next} (prompt : PromptRun backend start past world)
    (only : world.tasks = [stage]) (waits : stage.wait = .reply endpoint)
    (answered : backend endpoint reply) (clock : world.elapsed ≤ moment)
    (comes : (world.relay.turnAt moment (.reply stage reply)).result = (relay, next))
    (silent : relay.signals = []) :
    PromptRun backend start (past ++ [world.relay.turnAt moment (.reply stage reply)])
      ⟨relay.clearSignals, next.stages, moment⟩ :=
  prompt.alone only rfl ⟨endpoint, waits, answered⟩ clock
    (fun _ _ _ => by rw [waits]; rfl) comes silent

variable (takes : Nat → Nat) (replies : Nat → Reply)

/-- Without other tasks, the loader comes to every attempt in front of which all others failed. -/
theorem exists_asksAlone (notificationInterval : Nat) (preferences : Preferences) {attempt : Nat}
    (failed : ∀ earlier < attempt, ∃ problem, teamsOutcome replies earlier = .error problem) :
    ∃ past world, PromptRun (teamsBackend replies)
      (.initial notificationInterval preferences [.teamLoader]) past world ∧
      world.AsksAlone takes replies attempt past := by
  induction attempt with
  | zero =>
    refine ⟨_, _, PromptRun.begin.alone_ready rfl rfl (Nat.le_refl 0) (fun _ _ soon => nomatch soon)
      (Turn.result_of_begin rfl) rfl, ?_⟩
    refine ⟨rfl, rfl, rfl, fun turn member => ?_, rfl, rfl⟩
    rw [List.mem_singleton.mp member]
    exact nofun
  | succ attempt ih =>
    obtain ⟨past, world, prompt, asks⟩ :=
      ih fun earlier before => failed earlier (Nat.lt_succ_of_lt before)
    obtain ⟨problem, error⟩ := failed attempt (Nat.lt_succ_self attempt)
    -- The reply comes when its time is over, and the loader waits until the gap is over.
    have clock : world.elapsed ≤ teamsStart takes attempt + takes attempt := by
      rw [asks.elapsed]
      exact Nat.le_add_right _ _
    have fails : (world.relay.turnAt (teamsStart takes attempt + takes attempt)
        (.reply (.loadingTeams (attempt % 21)) (replies attempt))).result =
        (world.relay, .wait (teamsWait (attempt + 1) (teamsStart takes (attempt + 1)))) :=
      Turn.result_of_failed rfl error
    have replied := prompt.alone_reply asks.tasks rfl ⟨rfl, attempt, rfl⟩ clock fails asks.quiet
    have again : (world.relay.clearSignals.turnAt (teamsStart takes (attempt + 1))
        (.ready (teamsWait (attempt + 1) (teamsStart takes (attempt + 1))))).result =
        (world.relay.clearSignals, .wait (.loadingTeams ((attempt + 1) % 21))) :=
      Turn.result_of_teamsWait rfl
    have later : teamsStart takes attempt + takes attempt ≤ teamsStart takes (attempt + 1) :=
      Nat.le_add_right _ _
    have waited := replied.alone_ready rfl (by simp [Relay.meets]) later
      (fun earlier _ soon => by simpa [Relay.meets] using soon) again rfl
    refine ⟨_, _, waited, rfl, rfl, rfl, ?_, ?_, ?_⟩
    · simpa [Relay.turnAt, or_imp, forall_and] using asks.uncalled
    · rw [teamsRequests_concat, teamsRequests_concat, asks.requests,
        Turn.teamsRequest?_of_teamsWait (congrArg Prod.snd fails),
        Turn.teamsRequest?_behind_teamsWait rfl, List.range_succ (n := attempt + 1), List.map_append]
      simp [Relay.turnAt]
    · have gets : (world.relay.turnAt (teamsStart takes attempt + takes attempt)
          (.reply (.loadingTeams (attempt % 21)) (replies attempt))).teamsReply? =
          some (teamsStart takes attempt + takes attempt, teamsOutcome replies attempt) := rfl
      rw [teamsReplies_concat, teamsReplies_concat, asks.answers, gets,
        Turn.teamsReply?_of_ready rfl, List.range_succ, List.map_append]
      simp

/-- Without other tasks, the loader asks up to the first attempt that is served, and ends. -/
theorem exists_loadedAlone (notificationInterval : Nat) (preferences : Preferences) {served : Nat}
    {document : TeamsDocument}
    (failed : ∀ attempt < served, ∃ problem, teamsOutcome replies attempt = .error problem)
    (success : teamsOutcome replies served = .ok document) :
    ∃ past world, PromptRun (teamsBackend replies)
      (.initial notificationInterval preferences [.teamLoader]) past world ∧
      (∀ turn ∈ past, turn.occasion ≠ .call (.start .teamLoader)) ∧
      world.tasks = [] ∧ world.relay.teams = .withIds document ∧
      teamsRequests past = (List.range (served + 1)).map (teamsStart takes) ∧
      teamsReplies past = (List.range (served + 1)).map fun attempt =>
        (teamsStart takes attempt + takes attempt, teamsOutcome replies attempt) := by
  -- The run is that of the failed attempts, extended by the one that is served and the storing.
  obtain ⟨past, world, prompt, asks⟩ :=
    exists_asksAlone takes replies notificationInterval preferences failed
  have clock : world.elapsed ≤ teamsStart takes served + takes served := by
    rw [asks.elapsed]
    exact Nat.le_add_right _ _
  have serves : (world.relay.turnAt (teamsStart takes served + takes served)
      (.reply (.loadingTeams (served % 21)) (replies served))).result =
      (world.relay, .wait (.entering 1 (.storeTeams document))) :=
    Turn.result_of_served rfl success
  have replied := prompt.alone_reply asks.tasks rfl ⟨rfl, served, rfl⟩ clock serves asks.quiet
  have stores : (world.relay.clearSignals.turnAt (teamsStart takes served + takes served)
      (.ready (.entering 1 (.storeTeams document)))).result =
      ({ world.relay.clearSignals with teams := .withIds document }, .done .nothing) :=
    Turn.result_of_storeTeams rfl
  have stored := replied.alone_ready rfl rfl (Nat.le_refl _)
    (fun _ since soon => absurd soon (Nat.not_lt.mpr since)) stores rfl
  refine ⟨_, _, stored, ?_, rfl, rfl, ?_, ?_⟩
  · simpa [Relay.turnAt, or_imp, forall_and] using asks.uncalled
  · have waits : (world.relay.turnAt (teamsStart takes served + takes served)
        (.reply (.loadingTeams (served % 21)) (replies served))).teamsRequest? = none := by
      rw [Turn.teamsRequest?, Turn.next, serves]
    have ends : (world.relay.clearSignals.turnAt (teamsStart takes served + takes served)
        (.ready (.entering 1 (.storeTeams document)))).teamsRequest? = none := rfl
    rw [teamsRequests_concat, teamsRequests_concat, asks.requests, waits, ends]
    simp
  · have gets : (world.relay.turnAt (teamsStart takes served + takes served)
        (.reply (.loadingTeams (served % 21)) (replies served))).teamsReply? =
        some (teamsStart takes served + takes served, teamsOutcome replies served) := rfl
    rw [teamsReplies_concat, teamsReplies_concat, asks.answers, gets, Turn.teamsReply?_of_ready rfl,
      List.range_succ, List.map_append]
    simp

end Alone

/-- What a run has brought the loading of teams to, when it is known which attempt is served first. -/
structure World.LoadsUpTo (served : Nat) (document : TeamsDocument) (past : List Turn)
    (world : World) : Prop where
  requests : (teamsRequests past).length ≤ served + 1
  paced : TeamsPaced (teamsRequests past) (teamsReplies past)
  empty : (∃ stage ∈ world.tasks, stage.loadsTeams = true) → world.relay.teams = .empty
  loaded : (∀ stage ∈ world.tasks, stage.loadsTeams = false) →
    world.relay.teams = .withIds document ∧ (teamsRequests past).length = served + 1 ∧
      (teamsReplies past).length = served + 1
  /-- The loading is over when every attempt has had its time. -/
  timely : ∀ takes, RepliedWithin takes (teamsRequests past) (teamsReplies past) world.elapsed →
    teamsStart takes served + takes served < world.elapsed →
    ∀ stage ∈ world.tasks, stage.loadsTeams = false

/-- The only team loader loads the document of the first attempt that is served, and no other. -/
theorem PromptRun.loadsUpTo {backend : Backend} {start world : World} {past : List Turn}
    {outcomes : Nat → Except ApiError TeamsDocument} {served : Nat} {document : TeamsDocument}
    (prompt : PromptRun backend start past world) (fresh : start.LoadsTeams [])
    (quiet : start.relay.signals = [])
    (uncalled : ∀ turn ∈ past, turn.occasion ≠ .call (.start .teamLoader))
    (as : ∀ attempt reply, (teamsReplies past)[attempt]? = some reply → reply.2 = outcomes attempt)
    (failed : ∀ attempt < served, ∃ problem, outcomes attempt = .error problem)
    (success : outcomes served = .ok document) : world.LoadsUpTo served document past := by
  have loads := prompt.loadsTeams fresh quiet uncalled
  obtain ⟨requests, empty, loaded⟩ := loads.stands.outcome as failed success
  -- The loader is under way as long as one of the tasks is.
  have idle : world.tasks.filter Stage.loadsTeams = [] ↔
      ∀ stage ∈ world.tasks, stage.loadsTeams = false := by
    simp [List.filter_eq_nil_iff]
  refine ⟨requests, loads.paced, ?_, fun none => loaded (idle.mpr none), ?_⟩
  · rintro ⟨stage, member, underWay⟩
    refine empty fun ended => ?_
    rw [idle.mp ended stage member] at underWay
    cases underWay
  · intro takes within late
    apply idle.mp
    by_contra underWay
    have early := loads.stands.moment_le loads.paced within as failed success underWay
    omega

/--
The team directory is asked for until it is served, and then is what was served.

Whatever else happens in the relay, the attempts up to the first that is served are made at their
times and no more of them, and nothing is in the directory before that one. The loader by itself
makes them all, however long each of them takes.
-/
theorem teams_loaded (replies : Nat → Reply) {served : Nat} {document : TeamsDocument}
    (failed : ∀ attempt < served, ∃ problem, teamsOutcome replies attempt = .error problem)
    (success : teamsOutcome replies served = .ok document) (notificationInterval : Nat)
    (preferences : Preferences) :
    (∀ backend tasks past world, tasks.count .teamLoader = 1 →
      PromptRun backend (.initial notificationInterval preferences tasks) past world →
      (∀ turn ∈ past, turn.occasion ≠ .call (.start .teamLoader)) →
      (∀ attempt reply, (teamsReplies past)[attempt]? = some reply →
        reply.2 = teamsOutcome replies attempt) →
      world.LoadsUpTo served document past) ∧
    ∀ takes : Nat → Nat, ∃ past world,
      PromptRun (teamsBackend replies)
        (.initial notificationInterval preferences [.teamLoader]) past world ∧
      (∀ turn ∈ past, turn.occasion ≠ .call (.start .teamLoader)) ∧
      world.tasks = [] ∧ world.relay.teams = .withIds document ∧
      teamsRequests past = (List.range (served + 1)).map (teamsStart takes) ∧
      teamsReplies past = (List.range (served + 1)).map fun attempt =>
        (teamsStart takes attempt + takes attempt, teamsOutcome replies attempt) := by
  -- The first part is of every prompt run, and the second is the run of the loader alone.
  refine ⟨fun backend tasks past world single prompt uncalled as => ?_, fun takes => ?_⟩
  · have fresh := World.loadsTeams_initial notificationInterval preferences single
    exact prompt.loadsUpTo fresh rfl uncalled as failed success
  · exact exists_loadedAlone takes replies notificationInterval preferences failed success

/-- Replies that bring nothing for a series of attempts and one more, and a directory from then on. -/
def Sample.lateTeams (attempt : Nat) : Reply :=
  if attempt < 22 then .unanswered
  else .answered 200 none (some "\x7b\"5\":\x7b\"name\":\"A\"\x7d\x7d".toList)

/-- The directory that they bring in the end. -/
def Sample.lateDirectory : TeamsDocument :=
  .ofEntries [(5, ⟨0, "A", "", "", "", none⟩)]

/-- A directory that is served at the twenty-third attempt is there after six minutes. -/
theorem late_teams_loaded :
    ∃ past world, PromptRun (teamsBackend Sample.lateTeams)
      (.initial 1000 .standard [.teamLoader]) past world ∧
      world.LoadsUpTo 22 Sample.lateDirectory past ∧
      (teamsRequests past).getLast? = some 365700 ∧
      world.relay.teams.get? 5 = some ⟨5, "A", "", "", "", none⟩ := by
  -- The theorem gives the run, and its starting times are evaluated.
  have failed : ∀ attempt < 22, ∃ problem,
      teamsOutcome Sample.lateTeams attempt = .error problem := by
    intro attempt early
    rw [teamsOutcome, Sample.lateTeams, if_pos early]
    exact ⟨_, rfl⟩
  have success : teamsOutcome Sample.lateTeams 22 = .ok Sample.lateDirectory := by decide +kernel
  have loads := teams_loaded Sample.lateTeams failed success 1000 .standard
  obtain ⟨past, world, prompt, uncalled, ended, teams, requests, replies⟩ := loads.2 fun _ => 100
  refine ⟨past, world, prompt, loads.1 _ _ _ _ rfl prompt uncalled ?_, ?_, ?_⟩
  · intro attempt reply found
    rw [replies] at found
    simp only [List.getElem?_map, Option.map_eq_some_iff] at found
    obtain ⟨other, same, rfl⟩ := found
    rw [List.getElem?_eq_some_iff] at same
    obtain ⟨_, rfl⟩ := same
    simp
  · rw [requests]
    decide +kernel
  · rw [teams]
    decide +kernel

end Scoreboard
