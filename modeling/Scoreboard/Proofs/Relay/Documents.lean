import Scoreboard.Proofs.Relay.Deeds
import Scoreboard.Proofs.Table

/-! What the turns of a run do to the rounds and the histories that the relay keeps. -/

namespace Scoreboard

/-- What is known of a round that was fetched for a tick. -/
abbrev Knowledge := Tick → Round → Prop

/-- A task asks for no negative tick, and the round it holds is known for its tick. -/
def Stage.Sound (known : Knowledge) : Stage → Prop
  | .entering _ (.settleRound _ tick snapshot) => 0 ≤ tick ∧ known tick snapshot.round
  | .fetchingRound _ tick _ | .pausingRound _ tick _ _ => 0 ≤ tick
  | _ => True

/-- A turn ends with its task at a sound stage, or with the end of the task. -/
def Next.Sound (known : Knowledge) : Next → Prop
  | .wait stage => stage.Sound known
  | .done _ => True

/-- No round is kept for a negative tick, and every round kept is known for its tick. -/
def Relay.Sound (known : Knowledge) (relay : Relay) : Prop :=
  ∀ tick snapshot, relay.rounds.get? tick = some snapshot → 0 ≤ tick ∧ known tick snapshot.round

/-- The documents that the relay keeps. -/
def Relay.documents (relay : Relay) : RoundCache × HistoryCache :=
  (relay.rounds, relay.histories)

/-- The tick and the round that a task is about to look at, none when it stands elsewhere. -/
def Stage.check? : Stage → Option (Tick × Snapshot)
  | .entering parts (.settleRound _ tick snapshot) =>
    if 1 < parts then none else some (tick, snapshot)
  | _ => none

/-- The tick and the round that a turn looks at, none for any other turn. -/
def Turn.check? (turn : Turn) : Option (Tick × Snapshot) :=
  match turn.occasion with
  | .ready stage => stage.check?
  | _ => none

/-- What a turn does to the documents: it settles a round, keeps a document, or does nothing. -/
inductive Turn.Deals (turn : Turn) : Prop
  | settling (tick : Tick) (snapshot : Snapshot) (checked : turn.check? = some (tick, snapshot))
      (after : turn.after = turn.before.settleRound tick snapshot.round)
  | storing (use : RankingUse) (tick : Tick) (retry : Nat) (reply : Reply) (round : Round)
      (occasion : turn.occasion = .reply (.fetchingRound use tick retry) reply)
      (served : reply.document (.round tick) .round = .ok round)
      (after : turn.after = (turn.before.storeRound tick round).1)
      (next : turn.next = .wait (.entering 1
        (.settleRound use tick ⟨turn.before.fetchedRounds, round⟩)))
  | filing (use : HistoryUse) (team : TeamId) (retry : Nat) (reply : Reply) (history : TeamHistory)
      (occasion : turn.occasion = .reply (.fetchingHistory use team retry) reply)
      (served : reply.document (.teamHistory team) .teamHistory = .ok history)
      (after : turn.after =
        { turn.before with histories := turn.before.histories.put team history.points })
  | aside (unchecked : turn.check? = none) (after : turn.after.documents = turn.before.documents)

/-- What is known of rounds when nothing is. -/
def Knowledge.nothing : Knowledge :=
  fun _ _ => True

/-- What is known when each tick has one round, whenever it is fetched. -/
def Knowledge.ofRounds (rounds : Tick → Round) : Knowledge :=
  fun tick round => round = rounds tick

/-- What is known covers every round that a backend serves. -/
def Backend.Informs (backend : Backend) (known : Knowledge) : Prop :=
  ∀ tick reply round, backend (.round tick) reply →
    reply.document (.round tick) .round = .ok round → known tick round

/-- The relay keeps known rounds only, and so do the tasks under way. -/
structure World.Sound (known : Knowledge) (world : World) : Prop where
  relay : world.relay.Sound known
  tasks : ∀ stage ∈ world.tasks, stage.Sound known

namespace Relay

/-- A round that is processed is neither replaced nor removed. -/
@[simp] theorem processRound_rounds (relay : Relay) (previous round : Round) :
    (relay.processRound previous round).rounds = relay.rounds := by
  rw [processRound_eq]

/-- Histories of another list of services go when a round is processed, and the others grow. -/
theorem processRound_histories (relay : Relay) (previous round : Round) :
    (relay.processRound previous round).histories =
      (if servicesChanged previous round then .initial else relay.histories).extend round := by
  rw [processRound_eq]

/-- A round that is settled stays in the cache, and so do all others. -/
theorem settleRound_get? (relay : Relay) (tick asked : Tick) (round : Round) :
    (relay.settleRound tick round).rounds.get? asked = relay.rounds.get? asked := by
  -- The round is processed or was before, and neither replaces a round.
  rcases relay.settleRound_cases tick round with ⟨previous, _, _, _, settled⟩ | ⟨_, settled⟩
  · -- The claim raises the newest processed tick and touches no round.
    rw [settled, processRound_rounds]
    rfl
  · rw [settled]

/-- A round that is stored is found under its own tick, and hides no other. -/
theorem storeRound_get? (relay : Relay) (tick asked : Tick) (round : Round) :
    (relay.storeRound tick round).1.rounds.get? asked =
      if tick = asked then some ⟨relay.fetchedRounds, round⟩ else relay.rounds.get? asked :=
  Table.get?_insert _ _ _ _

end Relay

namespace Turn

variable {turn : Turn}

/-- A turn that looks at a round is the settling of it. -/
theorem after_of_check? {tick : Tick} {snapshot : Snapshot}
    (checked : turn.check? = some (tick, snapshot)) :
    turn.after = turn.before.settleRound tick snapshot.round := by
  -- A reply and a call are looks at nothing.
  unfold check? at checked
  split at checked
  · rename_i stage occasion
    -- Only a task in front of its last part, and about to settle a round, looks at one.
    unfold Stage.check? at checked
    split at checked
    · rename_i parts use held kept
      split at checked
      · cases checked
      · rename_i last
        cases checked
        simp only [Turn.after, Turn.result, occasion, Relay.resume, if_neg last, Relay.perform,
          Relay.finishRanking_relay]
    · cases checked
  · cases checked

/-- Every deed deals with the documents in one of four ways. -/
theorem Deed.deals (deed : turn.Deed) : turn.Deals := by
  cases checked : turn.check? with
  | some look => exact .settling look.1 look.2 checked (after_of_check? checked)
  | none =>
    -- Without a look, a round or a history may be kept, and nothing else happens to either.
    cases deed with
    | settles parts use tick snapshot occasion last after next =>
      simp [check?, occasion, Stage.check?, last] at checked
    | stores use tick retry reply round occasion served after next =>
      exact .storing use tick retry reply round occasion served after next
    | files use team retry reply history occasion served plain after =>
      exact .filing use team retry reply history occasion served after
    | misses plain after =>
      obtain ⟨hub, signals, missed⟩ := turn.before.missState_eq
      exact .aside checked (by rw [after, missed]; rfl)
    | absorbs parts again response occasion plain after =>
      obtain ⟨bus, hub, signals, absorbed⟩ :=
        turn.before.absorbState_eq response turn.now.unix turn.jitter
      exact .aside checked (by rw [after, absorbed]; rfl)
    | dismisses plain after =>
      obtain ⟨hub, signals, changed⟩ :=
        turn.before.overlayChanged_eq turn.before.overlay.dismissFirstBlood
      exact .aside checked (by rw [after, Relay.dismissBanner, changed]; rfl)
    | runsOut timer plain after =>
      obtain ⟨hub, signals, changed⟩ :=
        turn.before.overlayChanged_eq (turn.before.overlay.ranOut timer)
      exact .aside checked (by rw [after, Relay.runOut_eq, changed]; rfl)
    | goes goes after => exact .aside checked (by rw [after])
    | _ => exact .aside checked (by rw [‹turn.after = _›]; rfl)

end Turn

section Soundness

variable {known : Knowledge}

/-- A plain stage holds no round and asks for none. -/
theorem Stage.Plain.sound {stage : Stage} (plain : stage.Plain) : stage.Sound known := by
  -- The stages that hold or seek a round are not plain.
  cases stage with
  | fetchingRound use tick retry => cases plain
  | pausingRound use tick retry deadline => cases plain
  | entering parts step =>
    cases step with
    | settleRound use tick snapshot => cases plain
    | _ => trivial
  | _ => trivial

/-- What follows is sound when it is plain. -/
theorem Next.Plain.sound {next : Next} (plain : next.Plain) : next.Sound known := by
  cases next with
  | wait stage => exact Stage.Plain.sound plain
  | done outcome => trivial

namespace Relay

variable {relay : Relay}

/-- Nobody looks again at a round that is handed out. -/
theorem finishRanking_sound (use : RankingUse) (tick : Tick)
    (result : Except ServiceError Snapshot) :
    (relay.finishRanking use tick result).2.Sound known := by
  -- A result is answered, which is plain, or goes on as a round for an overlay.
  rcases relay.finishRanking_next use tick result with plain | ⟨snapshot, _, next⟩
  · exact Next.Plain.sound plain
  · rw [next]
    trivial

/-- A task that asks for a round finds a sound one in the cache, or fetches no negative tick. -/
theorem Sound.askRanking (sound : relay.Sound known) (use : RankingUse) (tick : Tick) :
    (relay.askRanking use tick).2.Sound known := by
  -- The tick is refused, found in the cache, or asked for.
  rcases relay.askRanking_cases use tick with
    ⟨_, asked⟩ | ⟨_, snapshot, kept, asked⟩ | ⟨counted, _, asked⟩
  · rw [asked]
    exact finishRanking_sound use tick _
  · rw [asked]
    exact sound tick snapshot kept
  · rw [asked]
    exact counted

end Relay

/-- A turn leaves its task at a sound stage when the rounds it is served are known. -/
theorem Turn.Deed.next_sound {backend : Backend} {turn : Turn} (deed : turn.Deed)
    (informs : backend.Informs known) (due : turn.IsDue backend) (sound : turn.before.Sound known)
    (stood : ∀ stage ∈ turn.occasion.stages, stage.Sound known) : turn.next.Sound known := by
  -- A stage that is not plain was sound before, or is after a round of the cache or the backend.
  cases deed with
  | goes goes after =>
    cases goes with
    | on plain => exact plain.sound
    | asks use tick asks next =>
      rw [next]
      exact sound.askRanking use tick
    | retries use tick retry deadline occasion next =>
      rw [next]
      exact stood (.pausingRound use tick retry deadline) (by simp [occasion, Occasion.stages])
    | pauses use tick retry again deadline reply occasion next =>
      rw [next]
      exact stood (.fetchingRound use tick retry) (by simp [occasion, Occasion.stages])
    | givesUp use tick retry reply problem occasion next =>
      rw [next]
      exact Relay.finishRanking_sound use tick _
    | queued parts step occasion next =>
      have waited := stood (.entering parts step) (by simp [occasion, Occasion.stages])
      rw [next]
      cases step <;> exact waited
    | weighs parts winners occasion next =>
      rw [next]
      split <;> trivial
    | spawned task occasion next => exact next ▸ trivial
    | awaits tick occasion next => exact next ▸ trivial
    | polls again reply response occasion answered next => exact next ▸ trivial
  | stores use tick retry reply round occasion served after next =>
    have counted : 0 ≤ tick :=
      stood (.fetchingRound use tick retry) (by simp [occasion, Occasion.stages])
    -- The stage was waiting for the round of this tick, so the backend served it for the tick.
    rw [IsDue, occasion] at due
    obtain ⟨endpoint, waits, answered⟩ := due
    cases waits
    rw [next]
    exact ⟨counted, informs tick reply round answered served⟩
  | settles parts use tick snapshot occasion last after next =>
    rw [next]
    exact Relay.finishRanking_sound use tick _
  | names parts tick round occasion last after next => exact next ▸ trivial
  | keeps parts winners occasion last after next => exact next ▸ trivial
  | plays parts winners occasion last after next => exact next ▸ trivial
  | _ => exact Next.Plain.sound ‹turn.next.Plain›

end Soundness

/-- A look at a round of a sound world is for no negative tick, and at a known round. -/
theorem World.Step.check_sound {known : Knowledge} {backend : Backend} {world later : World}
    {turn : Turn} (step : world.Step backend turn later) (sound : world.Sound known) {tick : Tick}
    {snapshot : Snapshot} (looked : turn.check? = some (tick, snapshot)) :
    0 ≤ tick ∧ known tick snapshot.round := by
  -- The stage of the task holds the tick and the round.
  unfold Turn.check? at looked
  split at looked
  · rename_i stage ready
    have stood := sound.tasks stage (step.occasion_mem (by simp [ready, Occasion.stages]))
    unfold Stage.check? at looked
    split at looked
    · split at looked
      · cases looked
      · cases looked
        exact stood
    · cases looked
  · cases looked

/-- A step of a run keeps a world sound. -/
theorem World.Step.sound {known : Knowledge} {backend : Backend} {world later : World} {turn : Turn}
    (informs : backend.Informs known) (step : world.Step backend turn later)
    (sound : world.Sound known) : later.Sound known := by
  have before : turn.before.Sound known := step.before ▸ sound.relay
  have stood : ∀ stage ∈ turn.occasion.stages, stage.Sound known :=
    fun stage taken => sound.tasks stage (step.occasion_mem taken)
  have next := step.deed.next_sound informs step.due before stood
  refine ⟨?_, fun stage waits => ?_⟩
  · -- The rounds in the cache first, then the tasks under way.
    intro tick snapshot kept
    rw [step.relay] at kept
    -- Only a round that was just served can be a new one in the cache.
    rcases step.deed.deals with
      ⟨settled, held, _, after⟩ | ⟨use, stored, retry, reply, round, _, _, after, goesOn⟩ |
      ⟨_, _, _, _, _, _, _, after⟩ | ⟨_, after⟩
    · refine before tick snapshot ?_
      rw [← Relay.settleRound_get? turn.before settled tick held.round, ← after]
      exact kept
    · rw [show turn.after.clearSignals.rounds = turn.after.rounds from rfl, after,
        Relay.storeRound_get?] at kept
      split at kept
      · -- The task that fetched the round goes on with it, at a sound stage.
        rename_i same
        rw [goesOn] at next
        cases kept
        exact same ▸ next
      · exact before tick snapshot kept
    · refine before tick snapshot ?_
      rw [show turn.after.clearSignals.rounds = turn.after.rounds from rfl, after] at kept
      exact kept
    · refine before tick snapshot ?_
      rw [← show turn.after.rounds = turn.before.rounds from congrArg Prod.fst after]
      exact kept
  · rcases step.tasks_mem waits with earlier | moved | ⟨task, rfl⟩
    · exact sound.tasks stage earlier
    · rw [moved] at next
      exact next
    · trivial

/-- A relay that was asked nothing keeps nothing. -/
theorem World.initial_sound (known : Knowledge) (notificationInterval : Nat)
    (preferences : Preferences) (tasks : List NewTask) :
    (World.initial notificationInterval preferences tasks).Sound known := by
  -- The cache is empty, and a new task has only begun.
  refine ⟨fun tick snapshot kept => ?_, fun stage waits => ?_⟩
  · cases kept
  · obtain ⟨task, _, rfl⟩ := List.mem_map.mp waits
    trivial

/-- Every run leads from a sound world to a sound one. -/
theorem Run.sound {known : Knowledge} {backend : Backend} {start world : World} {past : List Turn}
    (informs : backend.Informs known) (sound : start.Sound known)
    (run : Run backend start past world) : world.Sound known := by
  -- A turn is judged by the world in front of it, which the turns before have kept sound.
  induction run with
  | begin => exact sound
  | step _ step ih => exact step.sound informs ih

/-- A document that is in a reply is there wherever it was asked from. -/
theorem Reply.document_eq_ok {α : Type} {reply : Reply} {endpoint : Endpoint} {codec : Codec α}
    {document : α} (decoded : reply.document endpoint codec = .ok document) (other : Endpoint) :
    reply.document other codec = .ok document := by
  -- The endpoint is looked at only for the problem of a reply.
  cases reply with
  | unanswered => cases decoded
  | answered status date body =>
    simp only [Reply.document] at decoded ⊢
    split at decoded
    · cases decoded
    · rename_i success
      rw [if_neg success]
      split at decoded
      · assumption
      · cases decoded

/-! A small game and its backend, to be replayed where a theorem about runs is put to use. -/

namespace Sample

/-- A service with its first bloods. -/
def service (name : String) (firstBlood : List String) : Service :=
  ⟨name, 0, 0, firstBlood, 1, 1⟩

/-- The services at each tick: one of them leaves at tick 7, and returns with a first blood. -/
def services (tick : Tick) : List Service :=
  if tick = 5 then [service "web" ["A"], service "pwn" ["X"]]
  else if tick = 6 then [service "web" ["A", "B"], service "pwn" ["X"]]
  else if tick = 7 then [service "web" ["A", "B", "C"]]
  else if tick = 8 then [service "web" ["A", "B", "C"], service "pwn" ["X", "Y"]]
  else []

/-- The text of a result, which is the same for all services and ticks. -/
def resultText : List Char :=
  "\x7b\"o\":5,\"d\":1,\"s\":3,\"do\":0,\"dd\":0,\"ds\":0,\"c\":\"SUCCESS\"\x7d".toList

/-- The text of the rank of the only team, with a result for each service. -/
def rankText (services : List Service) : List Char :=
  writeObject
    [writeMember "team_id" ['3'], writeMember "rank" ['1'], writeMember "points" ['9'],
      writeMember "o" ['5'], writeMember "d" ['1'], writeMember "s" ['3'],
      writeMember "services" ('[' :: commaSeparated (services.map fun _ => resultText) ++ [']'])]

/-- The only reply to a request for a round: there is none at a tick without services. -/
def roundReply (tick : Tick) : Reply :=
  if services tick = [] then .answered 404 none none
  else .answered 200 none <| some <| writeObject
    [writeMember "tick" (Codec.int64.write tick),
      writeMember "services" ((Codec.list .service).write (services tick)),
      writeMember "scoreboard" ('[' :: rankText (services tick) ++ [']'])]

/-- The only reply to a request for a history: both services up to tick 5. -/
def historyReply : Reply :=
  .answered 200 none <| some <| writeObject
    [writeMember "points" "[[0,9,18,27,36,45],[0,9,18,27,36,45]]".toList]

/-- The reply to a poll at which a tick is the newest and the current one. -/
def stateReply (tick : Tick) : Reply :=
  .answered 200 none <| some <| Codec.currentState.write ⟨tick, .running, 1000, tick, none⟩

/-- Rounds and histories are answered in one way only, and every other request in any way. -/
def answers : Endpoint → Reply → Bool
  | .round tick, reply => reply = roundReply tick
  | .teamHistory _, reply => reply = historyReply
  | _, _ => true

/-- The round that is served for a tick, one without services where there is none. -/
def round (tick : Tick) : Round :=
  ((roundReply tick).document (.round tick) .round).toOption.getD ⟨tick, [], []⟩

/-- A tick is one of those that have services, or has none. -/
theorem tick_cases (tick : Tick) :
    (tick = 5 ∨ tick = 6 ∨ tick = 7 ∨ tick = 8) ∨ services tick = [] := by
  unfold services
  grind

/-- Where nothing is served, the round has neither services nor ranks. -/
theorem round_of_services_nil {tick : Tick} (none : services tick = []) :
    round tick = ⟨tick, [], []⟩ := by
  rw [round, roundReply, if_pos none]
  rfl

set_option maxRecDepth 100000 in
/-- The round of a tick carries the tick and its services, with a result for each in every rank. -/
theorem round_spec (tick : Tick) : (round tick).tick = tick ∧
    (round tick).services = services tick ∧
    ∀ rank ∈ (round tick).scoreboard, rank.services.length = (services tick).length := by
  -- A tick is one of those that are listed, or has no services and no ranks.
  rcases tick_cases tick with listed | none
  · -- The replies spell the rounds out.
    rcases listed with rfl | rfl | rfl | rfl <;> decide +kernel
  · simp [round_of_services_nil none, none]

/-- The backend that gives those answers. -/
def backend : Backend :=
  fun endpoint reply => answers endpoint reply = true

/-- What the backend serves for a tick is the round of that tick. -/
theorem backend_informs : backend.Informs (.ofRounds round) := by
  intro tick reply served answered decoded
  obtain rfl : reply = roundReply tick := by simpa [backend, answers] using answered
  simp [Knowledge.ofRounds, round, decoded, Except.toOption]

/-- Choices made all so many milliseconds after the start. -/
def madeAt (elapsed : Nat) (choices : List Choice) : List (Moment × Choice) :=
  choices.map fun choice => (⟨elapsed, 0⟩, choice)

/-- A lookup of a round by itself, which is not in the cache. -/
def lookup (tick : Tick) : List Choice :=
  [.call (.ranking tick), .reply 0 (roundReply tick), .ready 0]

/-- A lookup of a round by itself, which is in the cache. -/
def lookupKept (tick : Tick) : List Choice :=
  [.call (.ranking tick), .ready 0]

/-- A poll by itself, at which a tick is the newest and the current one. -/
def poll (tick : Tick) : List Choice :=
  [.call .poll, .reply 0 (stateReply tick), .ready 0]

/-- The world before anything is asked, with no task under way. -/
def start : World :=
  .initial 1000 .standard []

/-- The world of a relay that shows no notifications. -/
def mutedStart : World :=
  .initial 1000 { Preferences.standard with showNotifications := false } []

/-- The end of the game is handed on, its round is fetched, and the podium is told and stored. -/
def celebration (tick : Tick) : List Choice :=
  [.call (.event (.final tick)), .ready 0, .ready 0, .reply 0 (roundReply tick)] ++
    List.replicate 4 (.ready 0)

/-- The end of a game in which no notifications are shown. -/
def mutedEnd : List (Moment × Choice) :=
  madeAt 0 (poll 5 ++ celebration 5)

/-- The end of a game up to the start of the animation. -/
def playedEnd : List (Moment × Choice) :=
  madeAt 0 (poll 5 ++ celebration 5 ++ [.ready 0])

end Sample

end Scoreboard
