import Scoreboard.Proofs.Relay.Changes
import Scoreboard.Proofs.Relay.Strand

/-! Attempts: a task asks for a document again and again, until it has it or gives up. -/

namespace Scoreboard

/-- A document that a task asks for, and what for. -/
inductive Errand
  | round (use : RankingUse) (tick : Tick)
  | history (use : HistoryUse) (team : TeamId)
  | stats (use : StatsUse)

/-- Why there is no document, none when there is one. -/
def problemIn {α : Type} : Except ApiError α → Option ApiError
  | .ok _ => none
  | .error problem => some problem

/-- A reply has a problem when it brings no document. -/
theorem problemIn_eq_some {α : Type} {served : Except ApiError α} {problem : ApiError} :
    problemIn served = some problem ↔ served = .error problem := by
  cases served <;> simp [problemIn]

/-- A reply has no problem when it brings a document. -/
theorem problemIn_eq_none {α : Type} {served : Except ApiError α} :
    problemIn served = none ↔ ∃ document, served = .ok document := by
  cases served <;> simp [problemIn]

/-- The reply that a turn begins with. -/
def Turn.reply? (turn : Turn) : Option Reply :=
  match turn.occasion with
  | .reply _ reply => some reply
  | _ => none

/-- The request that a turn begins with. -/
def Turn.request? (turn : Turn) : Option Request :=
  match turn.occasion with
  | .call (.request request) => some request
  | _ => none

/-- A turn in which something is requested is the call that requests it. -/
theorem Turn.occasion_of_request? {turn : Turn} {request : Request}
    (requested : turn.request? = some request) : turn.occasion = .call (.request request) := by
  -- Only a call of this kind requests anything.
  unfold request? at requested
  split at requested
  · rename_i other occasion
    exact Option.some.inj requested ▸ occasion
  · cases requested

/-- The replies that some turns begin with, in their order. -/
def repliesOf (turns : List Turn) : List Reply :=
  turns.filterMap Turn.reply?

/-- The replies of turns in succession are those of the first and those of the others. -/
theorem repliesOf_append (turns others : List Turn) :
    repliesOf (turns ++ others) = repliesOf turns ++ repliesOf others :=
  List.filterMap_append

/-- A turn that is no reply adds none. -/
theorem repliesOf_cons_of_none {turn : Turn} (silent : turn.reply? = none) (turns : List Turn) :
    repliesOf (turn :: turns) = repliesOf turns :=
  List.filterMap_cons_none silent

/-- The last reply of some turns, behind those before. -/
theorem repliesOf_of_last {turn : Turn} {reply : Reply} {others : List Turn}
    (said : turn.reply? = some reply) (silent : repliesOf others = []) (turns : List Turn) :
    repliesOf (turns ++ turn :: others) = repliesOf turns ++ [reply] := by
  rw [repliesOf_append]
  exact congrArg _ ((List.filterMap_cons_some said).trans (congrArg _ silent))

namespace Errand

/-- The document at the backend. -/
def endpoint : Errand → Endpoint
  | .round _ tick => .round tick
  | .history _ team => .teamHistory team
  | .stats _ => .serviceStats

/-- How often the request is repeated. -/
def budget (errand : Errand) : Nat :=
  errand.endpoint.policy.budget

/-- Where the task asks for the document, after so many retries. -/
def attempt : Errand → Nat → Stage
  | .round use tick, retry => .fetchingRound use tick retry
  | .history use team, retry => .fetchingHistory use team retry
  | .stats use, retry => .fetchingStats use retry

/-- Where the task pauses before a retry. -/
def pause : Errand → Nat → Nat → Stage
  | .round use tick, retry, deadline => .pausingRound use tick retry deadline
  | .history use team, retry, deadline => .pausingHistory use team retry deadline
  | .stats use, retry, deadline => .pausingStats use retry deadline

/-- Why a reply does not bring the document, none when it does. -/
def problem? (errand : Errand) (reply : Reply) : Option ApiError :=
  match errand with
  | .round _ tick => problemIn (reply.document (.round tick) .round)
  | .history _ team => problemIn (reply.document (.teamHistory team) .teamHistory)
  | .stats _ => problemIn (reply.document .serviceStats .serviceStats)

/-- What becomes of a task that gives up. -/
def giveUp (relay : Relay) : Errand → ServiceError → Next
  | .round use tick, problem => (relay.finishRanking use tick (.error problem)).2
  | .history use team, problem => .done (use.outcome team (.error problem))
  | .stats use, problem => .done (use.outcome (.error problem))

variable {errand : Errand} {turn : Turn} {retry deadline : Nat} {reply : Reply} {problem : ApiError}

/-- An attempt waits for a reply of the endpoint. -/
@[simp] theorem wait_attempt : (errand.attempt retry).wait = .reply errand.endpoint := by
  cases errand <;> rfl

/-- A pause waits for its deadline. -/
@[simp] theorem wait_pause : (errand.pause retry deadline).wait = .time deadline := by
  cases errand <;> rfl

/-- A task that has paused asks again. -/
theorem result_of_pause (occasion : turn.occasion = .ready (errand.pause retry deadline)) :
    turn.result = (turn.before, .wait (errand.attempt retry)) := by
  cases errand <;> simp only [Turn.result, occasion] <;> rfl

/-- A reply without the document leads to a pause, or to the end. -/
theorem resumeWithReply_of_problem (relay : Relay) (now : Nat)
    (failed : errand.problem? reply = some problem) :
    relay.resumeWithReply now reply (errand.attempt retry) =
      match errand.endpoint.policy.afterFailure retry problem with
      | .pausing retry =>
        (relay, .wait (errand.pause retry (now + errand.endpoint.policy.delayBefore retry)))
      | .givenUp problem => (relay, errand.giveUp relay problem) := by
  -- The documents differ in what becomes of a task that gives up.
  cases errand with
  | round use tick =>
    have served : reply.document (.round tick) .round = .error problem := problemIn_eq_some.mp failed
    simp only [attempt, Relay.resumeWithReply, served, Relay.continueRanking, endpoint]
    cases (Endpoint.round tick).policy.afterFailure retry problem with
    | pausing retry => rfl
    | givenUp problem => exact Prod.ext (Relay.finishRanking_relay _ _ _ _) rfl
  | history use team =>
    have served : reply.document (.teamHistory team) .teamHistory = .error problem :=
      problemIn_eq_some.mp failed
    simp only [attempt, Relay.resumeWithReply, served]
    rfl
  | stats use =>
    have served : reply.document .serviceStats .serviceStats = .error problem :=
      problemIn_eq_some.mp failed
    simp only [attempt, Relay.resumeWithReply, served]
    rfl

/-- A task that gets no document changes nothing, and pauses as long as it has retries left. -/
theorem result_of_problem (occasion : turn.occasion = .reply (errand.attempt retry) reply)
    (failed : errand.problem? reply = some problem) : turn.result = (turn.before,
      if retry < errand.budget then
        .wait (errand.pause (retry + 1)
          (turn.now.elapsed + errand.endpoint.policy.delayBefore (retry + 1)))
      else errand.giveUp turn.before (.backendFailed ⟨errand.budget, problem⟩)) := by
  -- What follows a failure depends on the retries that are left, which the budget counts.
  have result : turn.result =
      turn.before.resumeWithReply turn.now.elapsed reply (errand.attempt retry) := by
    simp only [Turn.result, occasion]
  rw [result, resumeWithReply_of_problem _ _ failed, RetryPolicy.afterFailure, budget]
  by_cases left : retry < errand.endpoint.policy.budget
  · rw [if_pos left, if_pos left]
  · rw [if_neg left, if_neg left]

/-- The task is still after the document: all attempts so far have failed, and changed nothing. -/
structure Attempts (errand : Errand) (own : List Turn) (stage : Stage) : Prop where
  /-- The task asks, or pauses before it asks again, one after the other. -/
  stands : stage = errand.attempt (repliesOf own).length ∧ own.length = 2 * (repliesOf own).length ∨
    ∃ deadline, stage = errand.pause (repliesOf own).length deadline ∧
      own.length + 1 = 2 * (repliesOf own).length
  failed : ∀ reply ∈ repliesOf own, errand.problem? reply ≠ none
  within : (repliesOf own).length ≤ errand.budget
  unchanged : ∀ turn ∈ own, turn.after = turn.before

/-- The turn in which the task gets the document, or has failed for the last time. -/
inductive Ends (errand : Errand) (own : List Turn) (turn : Turn) : Prop
  | brings (reply : Reply)
      (occasion : turn.occasion = .reply (errand.attempt (repliesOf own).length) reply)
      (there : errand.problem? reply = none)
  | givesUp (reply : Reply) (problem : ApiError)
      (occasion : turn.occasion = .reply (errand.attempt (repliesOf own).length) reply)
      (failed : errand.problem? reply = some problem)
      (spent : (repliesOf own).length = errand.budget) (after : turn.after = turn.before)
      (next : turn.next = errand.giveUp turn.before (.backendFailed ⟨errand.budget, problem⟩))

/-- A task that is still after its document has not had many turns. -/
theorem Attempts.length_le {own : List Turn} {stage : Stage} (attempts : errand.Attempts own stage) :
    own.length ≤ 2 * errand.budget := by
  -- Every retry took a failed attempt and a pause, so the turns are twice the retries.
  have within := attempts.within
  rcases attempts.stands with ⟨_, even⟩ | ⟨_, _, odd⟩
  · omega
  · omega

/-- A task that has just asked is in its first attempt. -/
theorem Attempts.begin : errand.Attempts [] (errand.attempt 0) :=
  ⟨.inl ⟨rfl, rfl⟩, fun _ none => (nomatch none), Nat.zero_le _, fun _ none => (nomatch none)⟩

/-- Behind a turn that changes nothing, no turn has changed anything yet. -/
theorem Attempts.unchanged_concat {own : List Turn} {stage : Stage}
    (attempts : errand.Attempts own stage) (after : turn.after = turn.before) :
    ∀ other ∈ own ++ [turn], other.after = other.before :=
  List.forall_mem_append.mpr ⟨attempts.unchanged, List.forall_mem_singleton.mpr after⟩

/-- A failed attempt is followed by a pause as long as there are retries left. -/
theorem Attempts.fail {own : List Turn} {stage : Stage} (attempts : errand.Attempts own stage)
    (even : own.length = 2 * (repliesOf own).length)
    (occasion : turn.occasion = .reply (errand.attempt (repliesOf own).length) reply)
    (failed : errand.problem? reply = some problem)
    (left : (repliesOf own).length < errand.budget) (after : turn.after = turn.before) :
    errand.Attempts (own ++ [turn]) (errand.pause ((repliesOf own).length + 1) deadline) := by
  -- There is a reply more and a turn more, so that a pause is what is due.
  have replies : repliesOf (own ++ [turn]) = repliesOf own ++ [reply] :=
    repliesOf_of_last (by rw [Turn.reply?, occasion]) rfl own
  have counted : (repliesOf (own ++ [turn])).length = (repliesOf own).length + 1 := by
    rw [replies, List.length_append]
    rfl
  refine ⟨.inr ⟨_, by rw [counted], ?_⟩, ?_, ?_, attempts.unchanged_concat after⟩
  · rw [counted, List.length_append, even]
    rfl
  · -- The last reply is another one with a problem.
    rw [replies]
    refine List.forall_mem_append.mpr ⟨attempts.failed, List.forall_mem_singleton.mpr ?_⟩
    rw [failed]
    exact Option.some_ne_none problem
  · rw [counted]
    exact left

/-- A pause that is over is followed by another attempt. -/
theorem Attempts.resume {own : List Turn} {stage : Stage} (attempts : errand.Attempts own stage)
    (odd : own.length + 1 = 2 * (repliesOf own).length)
    (occasion : turn.occasion = .ready (errand.pause (repliesOf own).length deadline)) :
    errand.Attempts (own ++ [turn]) (errand.attempt (repliesOf own).length) := by
  -- The turn brings no reply, so that only the number of turns is another.
  have replies : repliesOf (own ++ [turn]) = repliesOf own := by
    rw [repliesOf_append, repliesOf_cons_of_none (by rw [Turn.reply?, occasion])]
    exact List.append_nil _
  refine ⟨.inl ⟨by rw [replies], ?_⟩, ?_, ?_,
    attempts.unchanged_concat (congrArg Prod.fst (result_of_pause occasion))⟩
  · rw [replies, List.length_append, ← odd]
    rfl
  · rw [replies]
    exact attempts.failed
  · rw [replies]
    exact attempts.within

/-- A turn of a task that is after a document makes for another attempt, or ends them. -/
theorem Attempts.step {backend : Backend} {own : List Turn} {stage : Stage}
    (attempts : errand.Attempts own stage) (due : turn.IsDue backend)
    (takes : turn.occasion.stages = [stage]) :
    (∃ later, turn.next = .wait later ∧ errand.Attempts (own ++ [turn]) later) ∨
      errand.Ends own turn := by
  -- The stage is an attempt, to be answered with a document or a problem, or a pause, to be ended.
  rcases attempts.stands with ⟨asks, even⟩ | ⟨deadline, pauses, odd⟩
  · obtain ⟨reply, occasion⟩ := Turn.reply_of_takes due (asks ▸ takes) wait_attempt
    cases failed : errand.problem? reply with
    | none => exact .inr (.brings reply occasion failed)
    | some problem =>
      have result := result_of_problem occasion failed
      have after : turn.after = turn.before := congrArg Prod.fst result
      have next : turn.next = if _ then _ else _ := congrArg Prod.snd result
      by_cases left : (repliesOf own).length < errand.budget
      · rw [if_pos left] at next
        exact .inl ⟨_, next, attempts.fail even occasion failed left after⟩
      · -- The budget is spent.
        rw [if_neg left] at next
        exact .inr (.givesUp reply problem occasion failed
          (Nat.le_antisymm attempts.within (Nat.le_of_not_lt left)) after next)
  · have occasion := Turn.ready_of_takes due (pauses ▸ takes) (by simp)
    exact .inl ⟨_, congrArg Prod.snd (result_of_pause occasion), attempts.resume odd occasion⟩

end Errand

/-- A task that goes after a document is still after it, or has come to the end of its attempts. -/
theorem Strand.attempts {backend : Backend} {errand : Errand} {own : List Turn} {next : Next}
    (due : ∀ turn ∈ own, turn.IsDue backend)
    (strand : Strand (.wait (errand.attempt 0)) own next) :
    (∃ stage, next = .wait stage ∧ errand.Attempts own stage) ∨
      ∃ tries turn rest stage, own = tries ++ turn :: rest ∧ errand.Attempts tries stage ∧
        errand.Ends tries turn ∧ Strand turn.next rest next := by
  -- The induction is on the turns of the task, and the last one ends the attempts or does not.
  induction strand with
  | begin => exact .inl ⟨_, rfl, .begin⟩
  | @step own stage turn strand takes ih =>
    have before := ih fun other member => due other (List.mem_append_left _ member)
    rcases before with ⟨_, same, attempts⟩ | ⟨tries, last, rest, stood, parts, attempts, ends, behind⟩
    · cases same
      rcases attempts.step (due turn (by simp)) takes with further | ends
      · exact .inl further
      · exact .inr ⟨own, turn, [], stage, rfl, attempts, ends, .begin⟩
    · -- The attempts have ended before, and the turn is one of those that follow.
      refine .inr ⟨tries, last, rest ++ [turn], stood, ?_, attempts, ends, behind.step takes⟩
      rw [parts, List.append_assoc, List.cons_append]

end Scoreboard
