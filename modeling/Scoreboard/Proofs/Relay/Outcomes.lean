import Scoreboard.Proofs.Json.Numerals
import Scoreboard.Proofs.Relay.Attempts
import Scoreboard.Proofs.Relay.Bodies
import Scoreboard.Proofs.Relay.Documents

/-! Outcomes: what a request for a document of the backend is answered, whatever its attempts meet. -/

namespace Scoreboard

/-- A document of the backend that is handed on to whoever asks for it. -/
inductive Relayed
  | ranking (tick : Tick)
  | points (team : TeamId)
  | pointTotals (team : TeamId)
  | serviceStats

/-- The reply says that there is no such document. -/
def Reply.isNotFound : Reply → Bool
  | .unanswered => false
  | .answered status _ _ => status = 404

namespace Relayed

/-- Where the document is asked for. -/
def route : Relayed → Route
  | .ranking tick => .ranking tick
  | .points team => .points team
  | .pointTotals team => .pointTotals team
  | .serviceStats => .serviceStats

/-- How often the backend is asked again. -/
def retries : Relayed → Nat
  | .ranking _ => 10
  | .points _ | .pointTotals _ | .serviceStats => 3

/-- What the request goes after at the backend. -/
def errand : Relayed → Errand
  | .ranking tick => .round .response tick
  | .points team => .history .response team
  | .pointTotals team => .history .totalsResponse team
  | .serviceStats => .stats .response

/-- A body carries what the request is after, as a reply of the backend has it. -/
def Carries (relayed : Relayed) (reply : Reply) (body : List Char) : Prop :=
  match relayed with
  | .ranking tick => ∃ round, reply.document (.round tick) .round = .ok round ∧
    Codec.round.Carries body round round.doubles
  | .points team => ∃ history, reply.document (.teamHistory team) .teamHistory = .ok history ∧
    (pointsRecord .pointHistory).codec.Carries body (team, history.points) history.doubles
  -- The totals are summed up from the history of the team.
  | .pointTotals team => ∃ history, reply.document (.teamHistory team) .teamHistory = .ok history ∧
    (pointsRecord (.list .float)).codec.Carries body (team, sumServices history.points)
      (sumServices history.points)
  | .serviceStats => ∃ stats, reply.document .serviceStats .serviceStats = .ok stats ∧
    statsRecord.codec.Carries body stats.stats []

/-- The relay has to ask the backend: the document is published, and not in a cache. -/
def Wanting (relayed : Relayed) (relay : Relay) : Prop :=
  match relayed with
  | .ranking tick => 0 ≤ tick ∧ tick ≤ relay.scoreboardTick ∧ relay.rounds.get? tick = none
  | .points team | .pointTotals team => relay.cachedHistory? team = none
  | .serviceStats => True

/-- What is done first, behind a part of the shared state. -/
def look? (request : Request) : Relayed → Option Step
  | .ranking tick => some (.answer request (.ranking tick))
  | .points team => some (.lookUpHistory .response team)
  | .pointTotals team => some (.lookUpHistory .totalsResponse team)
  | .serviceStats => none

variable {relayed : Relayed} {turn : Turn} {request : Request}

/-- A document is retried as often as its errand. -/
theorem budget_errand (relayed : Relayed) : relayed.errand.budget = relayed.retries := by
  cases relayed <;> rfl

/-- A request that the backend gives nothing for is answered with the last failure. -/
theorem giveUp_errand (relay : Relay) (problem : ServiceError) :
    relayed.errand.giveUp relay problem = .done (.response (.ofError problem)) := by
  cases relayed <;> rfl

/-- The first turn of the request changes nothing. -/
theorem result_of_call (occasion : turn.occasion = .call (.request request))
    (routed : routeOf request.method request.address.toList = .ok relayed.route) :
    turn.result = (turn.before, .wait (match relayed.look? request with
      | some step => .entering 1 step
      | none => relayed.errand.attempt 0)) := by
  simp only [Turn.result, occasion, Relay.receive, Relay.answer, routed]
  cases relayed <;> rfl

/-- The look at the caches finds that the backend has to be asked, and changes nothing. -/
theorem result_of_look {step : Step} (look : relayed.look? request = some step)
    (occasion : turn.occasion = .ready (.entering 1 step)) (wanting : relayed.Wanting turn.before) :
    turn.result = (turn.before, .wait (relayed.errand.attempt 0)) := by
  -- The look is the step in question, and the document is missing from its cache.
  have result : turn.result = turn.before.perform turn.now turn.jitter step := by
    simp [Turn.result, occasion, Relay.resume]
  rw [result]
  cases relayed with
  | ranking tick =>
    cases look
    obtain ⟨counted, published, missing⟩ := wanting
    simp only [Relay.perform, Relay.answerRoute]
    rw [if_neg (Int64.not_lt.mpr published), Relay.askRanking, if_neg (Int64.not_lt.mpr counted),
      missing]
    rfl
  | points team =>
    cases look
    have missing : turn.before.cachedHistory? team = none := wanting
    simp only [Relay.perform, Relay.lookUpHistory, missing]
    rfl
  | pointTotals team =>
    cases look
    have missing : turn.before.cachedHistory? team = none := wanting
    simp only [Relay.perform, Relay.lookUpHistory, missing]
    rfl
  | serviceStats => cases look

/-- The turn that gets the document hands it out, or settles its round first. -/
theorem next_of_document {retry : Nat} {reply : Reply}
    (occasion : turn.occasion = .reply (relayed.errand.attempt retry) reply)
    (there : relayed.errand.problem? reply = none) :
    (∃ body, relayed.Carries reply body ∧ turn.next = .done (.response ⟨200, some body⟩)) ∨
      ∃ tick snapshot, relayed = .ranking tick ∧
        reply.document (.round tick) .round = .ok snapshot.round ∧
        turn.next = .wait (.entering 1 (.settleRound .response tick snapshot)) := by
  have next : turn.next = (turn.before.resumeWithReply turn.now.elapsed reply
      (relayed.errand.attempt retry)).2 := by
    simp only [Turn.next, Turn.result, occasion]
  rw [next]
  -- A round is looked at before it is handed out, and all other documents are handed out at once.
  cases relayed with
  | ranking tick =>
    obtain ⟨round, served⟩ := problemIn_eq_none.mp there
    refine .inr ⟨tick, (turn.before.storeRound tick round).2, rfl, served, ?_⟩
    simp only [errand, Errand.attempt, Relay.resumeWithReply, served]
    rfl
  | points team =>
    obtain ⟨history, served⟩ := problemIn_eq_none.mp there
    refine .inl ⟨_, ⟨history, served, carries_history team history.points⟩, ?_⟩
    simp only [errand, Errand.attempt, Relay.resumeWithReply, served, Relay.continueHistory]
    rfl
  | pointTotals team =>
    obtain ⟨history, served⟩ := problemIn_eq_none.mp there
    refine .inl ⟨_, ⟨history, served, carries_totals team (sumServices history.points)⟩, ?_⟩
    simp only [errand, Errand.attempt, Relay.resumeWithReply, served, Relay.continueHistory]
    rfl
  | serviceStats =>
    obtain ⟨stats, served⟩ := problemIn_eq_none.mp there
    refine .inl ⟨_, ⟨stats, served, carries_stats stats.stats⟩, ?_⟩
    simp only [errand, Errand.attempt, Relay.resumeWithReply, served, Relay.continueStats]
    rfl

/-- The reply does not have the document. -/
def Fails (relayed : Relayed) (reply : Reply) : Prop :=
  ∃ problem, relayed.errand.problem? reply = some problem

/-- Where its turns have brought a request for a document, with the replies that they have met. -/
inductive Course (relayed : Relayed) (turns : List Turn) : Next → Prop
  /-- The caches are yet to be looked at, and the backend is yet to be asked. -/
  | looks (request : Request) (step : Step) (look : relayed.look? request = some step)
      (unasked : repliesOf turns = []) : Course relayed turns (.wait (.entering 1 step))
  /-- All attempts so far have failed, and another is under way or follows on a pause. -/
  | tries (stage : Stage) (failed : ∀ reply ∈ repliesOf turns, relayed.Fails reply)
      (left : (repliesOf turns).length ≤ relayed.retries)
      (stands : stage = relayed.errand.attempt (repliesOf turns).length ∨
        ∃ deadline, stage = relayed.errand.pause (repliesOf turns).length deadline) :
      Course relayed turns (.wait stage)
  /-- The round of a ranking is there, and is looked at before it is handed out. -/
  | settles (failures : List Reply) (last : Reply) (tick : Tick) (snapshot : Snapshot)
      (ranking : relayed = .ranking tick) (replies : repliesOf turns = failures ++ [last])
      (failed : ∀ reply ∈ failures, relayed.Fails reply)
      (within : failures.length ≤ relayed.retries)
      (there : last.document (.round tick) .round = .ok snapshot.round) :
      Course relayed turns (.wait (.entering 1 (.settleRound .response tick snapshot)))
  /-- The first document to come is handed out. -/
  | answers (failures : List Reply) (last : Reply) (body : List Char)
      (replies : repliesOf turns = failures ++ [last])
      (failed : ∀ reply ∈ failures, relayed.Fails reply)
      (within : failures.length ≤ relayed.retries) (carries : relayed.Carries last body) :
      Course relayed turns (.done (.response ⟨200, some body⟩))
  /-- The last attempt has failed like all before, and nothing was changed. -/
  | refuses (failures : List Reply) (last : Reply) (problem : ApiError) (response : Response)
      (replies : repliesOf turns = failures ++ [last])
      (failed : ∀ reply ∈ failures, relayed.Fails reply)
      (spent : failures.length = relayed.retries) (fails : relayed.errand.problem? last = some problem)
      (wording : response = .ofError (.backendFailed ⟨relayed.retries, problem⟩))
      (status : response.status = if last.isNotFound then 404 else 502)
      (unchanged : ∀ turn ∈ turns, turn.after = turn.before) :
      Course relayed turns (.done (.response response))

end Relayed

/-- The status 404 is the problem with a reply that says so, and with no other. -/
theorem Reply.status_ofError {α : Type} {reply : Reply} {endpoint : Endpoint} {codec : Codec α}
    {problem : ApiError} (failed : reply.document endpoint codec = .error problem)
    (retries : Nat) : (Response.ofError (.backendFailed ⟨retries, problem⟩)).status =
      if reply.isNotFound then 404 else 502 := by
  -- The cases are those in which a reply has no document.
  cases reply with
  | unanswered =>
    cases failed
    rfl
  | answered status date body =>
    simp only [Reply.document] at failed
    split at failed
    · -- The status is not one of success, and only 404 is handed on.
      cases failed
      by_cases missing : status = 404
      · subst missing
        rfl
      · simp [Reply.isNotFound, Response.ofError, missing, ServiceError.kind, Response.ofProblem]
    · rename_i success
      have found : status ≠ 404 := by
        rintro rfl
        exact success rfl
      rw [Reply.isNotFound, decide_eq_false found]
      split at failed
      · cases failed
      · cases failed
        rfl

namespace Relayed

variable {relayed : Relayed}

/-- A request that fails for good is answered with 404 when the last reply was, and with 502 else. -/
theorem status_of_problem? {reply : Reply} {problem : ApiError}
    (failed : relayed.errand.problem? reply = some problem) (retries : Nat) :
    (Response.ofError (.backendFailed ⟨retries, problem⟩)).status =
      if reply.isNotFound then 404 else 502 := by
  -- Whatever the document is, the problem is that of the reply.
  cases relayed <;> exact Reply.status_ofError (problemIn_eq_some.mp failed) retries

/-- The turn behind a round that is there hands the round out. -/
theorem next_of_settling {backend : Backend} {turn : Turn} {tick : Tick} {snapshot : Snapshot}
    (due : turn.IsDue backend)
    (takes : turn.occasion.stages = [.entering 1 (.settleRound .response tick snapshot)]) :
    turn.next = .done (.response (.ofDocument (Codec.round.write snapshot.round))) ∧
      turn.reply? = none := by
  -- Nothing is waited for, so that the step is performed at once.
  have occasion := Turn.ready_of_takes due takes (by simp [Stage.wait])
  refine ⟨?_, by simp [Turn.reply?, occasion]⟩
  rw [Turn.next, Turn.performs due takes]
  rfl

section Strands

variable {backend : Backend} {lead own : List Turn} {next : Next}

/-- As long as the task is still after its document, no reply has had it. -/
theorem fails_of_attempts {stage : Stage} (attempts : relayed.errand.Attempts own stage) :
    ∀ reply ∈ repliesOf own, relayed.Fails reply := by
  intro reply member
  obtain ⟨problem, failed⟩ := Option.ne_none_iff_exists'.mp (attempts.failed reply member)
  exact ⟨problem, failed⟩

/-- The last attempt leads to the answer, with at most one turn in between. -/
theorem Course.of_ends {tries rest : List Turn} {turn : Turn} {stage : Stage}
    (due : ∀ turn ∈ rest, turn.IsDue backend) (silent : repliesOf lead = [])
    (unchanged : ∀ turn ∈ lead, turn.after = turn.before)
    (attempts : relayed.errand.Attempts tries stage) (ends : relayed.errand.Ends tries turn)
    (behind : Strand turn.next rest next) :
    relayed.Course (lead ++ (tries ++ turn :: rest)) next ∧ rest.length ≤ 1 := by
  have failed := fails_of_attempts attempts
  have within : (repliesOf tries).length ≤ relayed.retries :=
    budget_errand relayed ▸ attempts.within
  have replies {last : Reply} (said : turn.reply? = some last) (hushed : repliesOf rest = []) :
      repliesOf (lead ++ (tries ++ turn :: rest)) = repliesOf tries ++ [last] := by
    rw [repliesOf_append, silent, List.nil_append, repliesOf_of_last said hushed]
  cases ends with
  | brings reply occasion there =>
    have said : turn.reply? = some reply := by rw [Turn.reply?, occasion]
    rcases next_of_document occasion there with
      ⟨body, carries, next⟩ | ⟨tick, snapshot, rfl, served, next⟩
    · -- The document is handed out at once.
      rw [next] at behind
      obtain ⟨rfl, rfl⟩ := behind.of_done
      exact ⟨.answers _ reply body (replies said rfl) failed within carries, Nat.zero_le 1⟩
    · rw [next] at behind
      cases rest with
      | nil =>
        obtain rfl := behind.eq_of_nil rfl
        exact ⟨.settles _ reply tick snapshot rfl (replies said rfl) failed within served,
          Nat.zero_le 1⟩
      | cons settling rest =>
        -- The round is settled before it is handed out.
        obtain ⟨⟨_, waits, takes⟩, behind⟩ := behind.uncons rfl
        cases waits
        obtain ⟨next, hushed⟩ := next_of_settling (due settling List.mem_cons_self) takes
        rw [next] at behind
        obtain ⟨rfl, rfl⟩ := behind.of_done
        have met := replies said (repliesOf_cons_of_none hushed [])
        have carries : (Relayed.ranking tick).Carries reply (Codec.round.write snapshot.round) :=
          ⟨snapshot.round, served, Codec.carries_round snapshot.round⟩
        exact ⟨.answers _ reply _ met failed within carries, Nat.le_refl 1⟩
  | givesUp reply problem occasion lost spent after next =>
    have said : turn.reply? = some reply := by rw [Turn.reply?, occasion]
    rw [next, giveUp_errand, budget_errand] at behind
    obtain ⟨rfl, rfl⟩ := behind.of_done
    refine ⟨.refuses _ reply problem _ (replies said rfl) failed (budget_errand relayed ▸ spent)
      lost rfl (status_of_problem? lost _) ?_, Nat.zero_le 1⟩
    intro other member
    rcases List.mem_append.mp member with first | own
    · exact unchanged other first
    · rcases List.mem_append.mp own with earlier | last
      · exact attempts.unchanged other earlier
      · exact List.mem_singleton.mp last ▸ after

/-- A request that has begun to ask the backend keeps to the course, and has not many turns. -/
theorem Course.of_strand (due : ∀ turn ∈ own, turn.IsDue backend) (silent : repliesOf lead = [])
    (unchanged : ∀ turn ∈ lead, turn.after = turn.before)
    (strand : Strand (.wait (relayed.errand.attempt 0)) own next) :
    relayed.Course (lead ++ own) next ∧ own.length ≤ 2 * relayed.retries + 2 := by
  -- The turns are attempts so far, or attempts with an end and what follows it.
  rcases strand.attempts due with
    ⟨stage, rfl, attempts⟩ | ⟨tries, turn, rest, stage, rfl, attempts, ends, behind⟩
  · -- No attempt has brought the document, and none was the last.
    have short := budget_errand relayed ▸ attempts.length_le
    have replies : repliesOf (lead ++ own) = repliesOf own := by
      rw [repliesOf_append, silent, List.nil_append]
    refine ⟨.tries stage ?_ ?_ ?_, by omega⟩
    · rw [replies]
      exact fails_of_attempts attempts
    · rw [replies, ← budget_errand]
      exact attempts.within
    · rw [replies]
      exact attempts.stands.imp And.left fun ⟨deadline, pauses, _⟩ => ⟨deadline, pauses⟩
  · have short := budget_errand relayed ▸ attempts.length_le
    obtain ⟨course, ended⟩ := Course.of_ends (fun turn member => due turn (by simp [member])) silent
      unchanged attempts ends behind
    refine ⟨course, ?_⟩
    rw [List.length_append, List.length_cons]
    omega

end Strands

/-- A request waits for nothing but a part of the shared state, the backend or a moment. -/
theorem Course.wait_cases {turns : List Turn} {stage : Stage}
    (course : relayed.Course turns (.wait stage)) : stage.wait = .part ∨
      stage.wait = .reply relayed.errand.endpoint ∨ ∃ deadline, stage.wait = .time deadline := by
  -- The course says what the request is about to do.
  cases course with
  | looks => exact .inl rfl
  | settles => exact .inl rfl
  | tries _ _ _ stands =>
    rcases stands with rfl | ⟨deadline, rfl⟩
    · exact .inr (.inl (by simp))
    · exact .inr (.inr ⟨deadline, by simp⟩)

end Relayed

namespace Sample

/-- Replies without a document, each of another kind. -/
def failures : List Reply :=
  [.unanswered, .answered 500 none none, .answered 200 none (some ['?']), .answered 404 none none]

end Sample

end Scoreboard
