import Mathlib.Data.List.Basic
import Scoreboard.Forwarder
import Scoreboard.Proofs.Channel.Broadcast
import Scoreboard.Proofs.Dashboards.Retention

/-! Dashboards that join at any time: they are told where things stand, and then miss no event. -/

namespace Scoreboard

/-- The last event of a name among some events. -/
def lastNamed? (events : List ServerEvent) (name : String) : Option ServerEvent :=
  (events.filter fun event => event.event = some name).getLast?

/-- The hub after some more events, oldest first. -/
def Hub.broadcastAll (hub : Hub) (events : List ServerEvent) : Hub :=
  events.foldl Hub.broadcast hub

/-- Somebody who has subscribed to a hub and sees its events as they are. -/
structure Subscriber where
  hub : Hub
  /-- The next position in the hub's channel. -/
  position : Nat
  /-- The replay, and the events received since. -/
  seen : List ServerEvent

/-- What can happen once somebody has subscribed to a hub. -/
inductive Subscriber.Step
  /-- One more event comes to the hub. -/
  | broadcast (event : ServerEvent)
  /-- The subscriber comes for its next event. -/
  | receive

/-- A dashboard that has joined a hub and reads what is forwarded to it. -/
structure Viewing where
  hub : Hub
  forwarder : Forwarder
  /-- What the dashboard has read. -/
  seen : List ServerEvent

/-- What can happen once a dashboard has joined a hub. -/
inductive Viewing.Step
  /-- One more event comes to the hub. -/
  | broadcast (event : ServerEvent)
  /-- The forwarder gets so far that it hands on at most so many events. -/
  | forward (turns : Nat)
  /-- The dashboard reads one event, if there is one. -/
  | read

namespace Subscriber

/-- A subscriber that has just joined. -/
def join (hub : Hub) : Subscriber :=
  ⟨hub, hub.channel.subscribe, hub.replay⟩

/-- The event that a step brings to the hub. -/
def Step.event? : Step → Option ServerEvent
  | .broadcast event => some event
  | .receive => none

/-- The subscriber after a step. -/
def step (subscriber : Subscriber) : Step → Subscriber
  | .broadcast event => { subscriber with hub := subscriber.hub.broadcast event }
  | .receive =>
    match subscriber.hub.channel.receive subscriber.position with
    | (.message event, position) =>
      { subscriber with position := position, seen := subscriber.seen ++ [event] }
    | (_, position) => { subscriber with position := position }

/-- The subscriber is no further behind than its hub can keep events for it. -/
def isNear (subscriber : Subscriber) : Bool :=
  subscriber.hub.channel.sent ≤ subscriber.position + subscriber.hub.channel.capacity

/-- The subscriber is near whenever it comes for an event in some steps. -/
def keepsUp (subscriber : Subscriber) : List Step → Bool
  | [] => true
  | step :: steps =>
    (step.event?.isSome || subscriber.isNear) && (subscriber.step step).keepsUp steps

end Subscriber

namespace Viewing

/-- A dashboard that has just joined. -/
def join (hub : Hub) : Viewing :=
  ⟨hub, .ofSubscription hub.replay hub.channel.subscribe, []⟩

/-- The event that a step brings to the hub. -/
def Step.event? : Step → Option ServerEvent
  | .broadcast event => some event
  | .forward _ | .read => none

/-- Hub, forwarder and dashboard after a step. -/
def step (viewing : Viewing) : Step → Viewing
  | .broadcast event => { viewing with hub := viewing.hub.broadcast event }
  | .forward turns =>
    { viewing with forwarder := viewing.forwarder.advance viewing.hub.channel turns }
  | .read =>
    match viewing.forwarder.read? with
    | none => viewing
    | some (event, forwarder) =>
      { viewing with forwarder := forwarder, seen := viewing.seen ++ [event] }

/-- The forwarder is no further behind than the hub can keep events for it. -/
def isNear (viewing : Viewing) : Bool :=
  viewing.hub.channel.sent ≤ viewing.forwarder.position + viewing.hub.channel.capacity

/-- The forwarder is near whenever it gets on in some steps. -/
def keepsUp (viewing : Viewing) : List Step → Bool
  | [] => true
  | step :: steps =>
    (match step with
      | .forward _ => viewing.isNear
      | _ => true) && (viewing.step step).keepsUp steps

end Viewing

section Names

variable {name : String}

/-- The last event of a name is behind, if there is one behind, and in front otherwise. -/
theorem lastNamed?_append (front back : List ServerEvent) (name : String) :
    lastNamed? (front ++ back) name = (lastNamed? back name).or (lastNamed? front name) := by
  rw [lastNamed?, List.filter_append, List.getLast?_append]
  rfl

/-- The last event of a name has that name. -/
theorem event_of_lastNamed? {events : List ServerEvent} {event : ServerEvent}
    (last : lastNamed? events name = some event) : event.event = some name := by
  have kept := (List.mem_filter.mp (List.mem_of_getLast? last)).2
  simpa using kept

/-- Among events of different names, one for each name at most, there is one of each name at most. -/
theorem lastNamed?_filterMap {names : List String} {event? : String → Option ServerEvent}
    (different : names.Nodup)
    (named : ∀ other event, event? other = some event → event.event = some other)
    (member : name ∈ names) : lastNamed? (names.filterMap event?) name = event? name := by
  -- The induction is on the names: the first one has its event alone, and the others have other
  -- names.
  induction names with
  | nil => cases member
  | cons first rest ih =>
    obtain ⟨absent, different⟩ := List.nodup_cons.mp different
    rw [← List.singleton_append, List.filterMap_append, lastNamed?_append]
    have alone : ∀ other, lastNamed? ([other].filterMap event?) name =
        if other = name then event? name else none := by
      intro other
      cases found : event? other with
      | none =>
        by_cases same : other = name
        · simp [lastNamed?, found, ← same]
        · simp [lastNamed?, found, same]
      | some event =>
        have own := named other event found
        by_cases same : other = name
        · simp [lastNamed?, found, own, ← same]
        · simp [lastNamed?, found, own, same]
    rw [alone first]
    rcases List.mem_cons.mp member with rfl | behind
    · -- No later name is the first one.
      have nothing : lastNamed? (rest.filterMap event?) name = none := by
        cases last : lastNamed? (rest.filterMap event?) name with
        | none => rfl
        | some event =>
          obtain ⟨other, inside, found⟩ :=
            List.mem_filterMap.mp (List.mem_filter.mp (List.mem_of_getLast? last)).1
          have own := (named other event found).symm.trans (event_of_lastNamed? last)
          cases own
          exact absurd inside absent
      simp [nothing]
    · have apart : first ≠ name := fun same => absent (same ▸ behind)
      simp [ih different behind, apart]

end Names

namespace Hub

variable {hub : Hub} {capacity : Nat} {history : List ServerEvent}

/-- Events are broadcast one behind the other. -/
theorem broadcastAll_append (hub : Hub) (front back : List ServerEvent) :
    hub.broadcastAll (front ++ back) = (hub.broadcastAll front).broadcastAll back :=
  List.foldl_append

/-- Each event that comes is sent on the channel. -/
theorem holds_broadcastAll (holds : hub.channel.Holds capacity history)
    (events : List ServerEvent) :
    (hub.broadcastAll events).channel.Holds capacity (history ++ events) := by
  -- The induction is on the events, each of which is sent once.
  induction events generalizing hub history with
  | nil => simpa [broadcastAll] using holds
  | cons event rest ih =>
    have sent : (hub.broadcast event).channel.Holds capacity (history ++ [event]) :=
      holds.send event
    simpa [broadcastAll] using ih sent

/-- What is kept of a retained name is the last event of that name. -/
theorem latest?_broadcastAll (hub : Hub) (events : List ServerEvent) {name : String}
    (retained : name ∈ retainedNames) : (hub.broadcastAll events).latest? name =
      (lastNamed? events name).or (hub.latest? name) := by
  -- The events are what their signals bring.
  have heard : hub.broadcastAll events = (events.map Signal.broadcast).foldl hear hub := by
    rw [List.foldl_map]
    rfl
  have brought : (events.map Signal.broadcast).filterMap Signal.broadcast? = events := by
    rw [List.filterMap_map]
    exact List.filterMap_some
  rw [heard, latest?_hear _ _ retained, brought]
  rfl

/-- A hub that was just opened retains nothing. -/
theorem latest?_ofCapacity? {least : Nat} (opened : ofCapacity? least = some hub) (name : String) :
    hub.latest? name = none := by
  obtain ⟨channel, _, rfl⟩ := Option.map_eq_some_iff.mp opened
  rfl

/-- The channel of a hub that was just opened holds no event. -/
theorem holds_ofCapacity? {least : Nat} (opened : ofCapacity? least = some hub) :
    hub.channel.Holds (powerOfTwoFrom least) [] := by
  -- A hub is opened only with room for an event, and then its channel is a new one.
  obtain ⟨channel, made, rfl⟩ := Option.map_eq_some_iff.mp opened
  unfold Broadcast.ofCapacity? at made
  split at made
  · cases made
  · cases made
    exact Broadcast.holds_ofCapacity _

/-- A dashboard that joins is told the last event of each retained name, and nothing else. -/
theorem replay_broadcastAll {least : Nat} (opened : ofCapacity? least = some hub)
    (events : List ServerEvent) :
    (hub.broadcastAll events).replay = retainedNames.filterMap (lastNamed? events) := by
  -- Name by name, what is retained is the last event, since nothing was retained at first.
  refine List.filterMap_congr ?_
  intro name retained
  have kept := latest?_broadcastAll hub events retained
  rw [latest?_ofCapacity? opened, Option.or_none] at kept
  exact kept

/-- The replay tells the last event of each retained name. -/
theorem lastNamed?_replay {least : Nat} (opened : ofCapacity? least = some hub)
    (events : List ServerEvent) {name : String} (retained : name ∈ retainedNames) :
    lastNamed? (hub.broadcastAll events).replay name = lastNamed? events name := by
  rw [replay_broadcastAll opened]
  exact lastNamed?_filterMap (by decide) (fun _ _ => event_of_lastNamed?) retained

end Hub

/--
Somebody joined a hub, to which later events have come since.

What they have taken so far is the replay and then the events they have heard, and the others wait
for them.
-/
structure Attends (joined : Hub) (heard awaited : List ServerEvent) (hub : Hub) (position : Nat)
    (taken : List ServerEvent) : Prop where
  hub : hub = joined.broadcastAll (heard ++ awaited)
  position : position = joined.channel.sent + heard.length
  taken : taken = joined.replay ++ heard

namespace Attends

variable {joined hub : Hub} {heard awaited taken front : List ServerEvent} {position capacity : Nat}

/-- A dashboard that joins has the replay on its way, and waits for nothing. -/
theorem begin (joined : Hub) :
    Attends joined [] [] joined joined.channel.subscribe joined.replay :=
  ⟨rfl, rfl, (List.append_nil _).symm⟩

/-- One more event comes, and nobody has taken it yet. -/
theorem more (attends : Attends joined heard awaited hub position taken) (event : ServerEvent) :
    Attends joined heard (awaited ++ [event]) (hub.broadcast event) position taken := by
  refine ⟨?_, attends.position, attends.taken⟩
  rw [← List.append_assoc, Hub.broadcastAll_append, ← attends.hub]
  rfl

/-- As many events were sent as a dashboard is past, and as it still waits for. -/
theorem sent (attends : Attends joined heard awaited hub position taken)
    (holds : joined.channel.Holds capacity front) :
    hub.channel.sent = position + awaited.length := by
  -- The channel counts the events in front of the joining as well, and so does the position.
  have whole := Hub.holds_broadcastAll holds (heard ++ awaited)
  rw [attends.hub, whole.sent, attends.position, holds.sent]
  simp only [List.length_append]
  omega

/-- Who comes in time finds the first of the events that wait for them. -/
theorem receive (attends : Attends joined heard awaited hub position taken)
    (holds : joined.channel.Holds capacity front)
    (near : hub.channel.sent ≤ position + hub.channel.capacity) :
    hub.channel.receive position = match awaited.head? with
      | some event => (.message event, position + 1)
      | none => (.empty, position) := by
  have whole := Hub.holds_broadcastAll holds (heard ++ awaited)
  rw [← attends.hub] at whole
  rw [whole.sent, whole.room] at near
  -- What has been heard stands in front of the position, and what waits behind it.
  have here : (front ++ (heard ++ awaited))[position]? = awaited.head? := by
    rw [attends.position, holds.sent, ← List.append_assoc, ← List.length_append,
      List.getElem?_append_right (Nat.le_refl _), Nat.sub_self, List.head?_eq_getElem?]
  rw [whole.receive, if_neg (by omega), here]
  cases awaited.head? <;> rfl

/-- The first event that waits is the next one heard. -/
theorem hear {event : ServerEvent}
    (attends : Attends joined heard (event :: awaited) hub position taken) :
    Attends joined (heard ++ [event]) awaited hub (position + 1) (taken ++ [event]) := by
  refine ⟨by rw [attends.hub, List.append_assoc, List.singleton_append], ?_, ?_⟩
  · rw [attends.position, List.length_append, List.length_singleton, Nat.add_assoc]
  · rw [attends.taken, List.append_assoc]

/-- The last event of a retained name is the one that is told to those who join behind it. -/
theorem lastNamed? {least : Nat} {opened : Hub}
    (attends : Attends (opened.broadcastAll front) heard awaited hub position taken)
    (opens : Hub.ofCapacity? least = some opened) {name : String} (retained : name ∈ retainedNames) :
    lastNamed? taken name =
      lastNamed? ((opened.broadcastAll front).broadcastAll heard).replay name := by
  rw [attends.taken, lastNamed?_append, Hub.lastNamed?_replay opens front retained,
    ← Hub.broadcastAll_append, Hub.lastNamed?_replay opens (front ++ heard) retained,
    lastNamed?_append]

end Attends

namespace Subscriber

variable {joined : Hub} {front : List ServerEvent} {capacity : Nat}

/-- In steps in which it keeps up, a subscriber hears the events in their order. -/
theorem attends (holds : joined.channel.Holds capacity front) {steps : List Step} :
    ∀ {subscriber : Subscriber} {heard awaited : List ServerEvent},
      Attends joined heard awaited subscriber.hub subscriber.position subscriber.seen →
      subscriber.keepsUp steps = true →
      ∃ now left, heard ++ awaited ++ steps.filterMap Step.event? = now ++ left ∧
        Attends joined now left (steps.foldl step subscriber).hub
          (steps.foldl step subscriber).position (steps.foldl step subscriber).seen := by
  induction steps with
  | nil =>
    intro subscriber heard awaited attends _
    exact ⟨heard, awaited, List.append_nil _, attends⟩
  | cons first rest ih =>
    intro subscriber heard awaited attends keeps
    simp only [keepsUp, Bool.and_eq_true, Bool.or_eq_true] at keeps
    obtain ⟨near, keeps⟩ := keeps
    cases first with
    | broadcast event =>
      obtain ⟨now, left, parts, after⟩ :=
        @ih (subscriber.step (.broadcast event)) heard _ (attends.more event) keeps
      exact ⟨now, left, by simpa [Step.event?] using parts, after⟩
    | receive =>
      -- The subscriber is near, so it gets the first event that waits for it.
      have close : subscriber.isNear = true := near.resolve_left (by simp [Step.event?])
      have received := attends.receive holds (of_decide_eq_true close)
      cases awaited with
      | nil =>
        have same : subscriber.step .receive = subscriber := by simp only [step, received]; rfl
        rw [same] at keeps
        rw [List.foldl_cons, same]
        exact ih attends keeps
      | cons event awaited =>
        have taken : subscriber.step .receive = { subscriber with
            position := subscriber.position + 1, seen := subscriber.seen ++ [event] } := by
          simp only [step, received]; rfl
        rw [taken] at keeps
        rw [List.foldl_cons, taken]
        obtain ⟨now, left, parts, after⟩ := ih attends.hear keeps
        exact ⟨now, left, by simpa [List.filterMap_cons, Step.event?] using parts, after⟩

end Subscriber

namespace Forwarder

/-- What was taken for a dashboard and has not been read by it, oldest first. -/
def underway (forwarder : Forwarder) : List ServerEvent :=
  forwarder.buffer ++ forwarder.handing.toList ++ forwarder.replay

/-- How many events a forwarder has still to put into the buffer. -/
def load (forwarder : Forwarder) (channel : Broadcast ServerEvent) : Nat :=
  forwarder.handing.toList.length + forwarder.replay.length + (channel.sent - forwarder.position)

/-- An event that is handed on stays underway. -/
@[simp] theorem underway_push (forwarder : Forwarder) :
    forwarder.push.underway = forwarder.underway := by
  unfold push underway
  cases handing : forwarder.handing <;> simp [handing]

/-- Handing an event on moves no position. -/
@[simp] theorem position_push (forwarder : Forwarder) :
    forwarder.push.position = forwarder.position := by
  unfold push
  cases forwarder.handing <;> rfl

variable {joined hub : Hub} {heard awaited front seen : List ServerEvent} {capacity : Nat}

/-- What a forwarder that is in time does next: it takes an event in hand, or has none left. -/
inductive Picks (joined hub : Hub) (heard awaited seen : List ServerEvent)
    (forwarder : Forwarder) : Prop
  | event (now left : List ServerEvent) (picked : Forwarder)
      (picks : forwarder.pick? hub.channel = some picked) (parts : heard ++ awaited = now ++ left)
      (attends : Attends joined now left hub picked.position (seen ++ picked.underway))
      (forth : forwarder.position ≤ picked.position)
      (lighter : picked.push.load hub.channel < forwarder.load hub.channel)
  | none (picks : forwarder.pick? hub.channel = none) (all : awaited = [])
      (buffered : seen ++ forwarder.buffer = joined.replay ++ heard)

/-- A forwarder that is near enough picks the next event up, if there is one. -/
theorem picks {forwarder : Forwarder}
    (attends : Attends joined heard awaited hub forwarder.position (seen ++ forwarder.underway))
    (holds : joined.channel.Holds capacity front)
    (near : hub.channel.sent ≤ forwarder.position + hub.channel.capacity) :
    forwarder.Picks joined hub heard awaited seen := by
  have sent := attends.sent holds
  obtain ⟨replay, position, handing, buffer⟩ := forwarder
  -- An event in hand goes first, then the replay, and then what the channel has.
  cases handing with
  | some event =>
    refine .event heard awaited _ rfl rfl attends (Nat.le_refl _) ?_
    simp [push, load]
  | none =>
    cases replay with
    | cons event rest =>
      refine .event heard awaited _ rfl rfl (by simpa [underway] using attends) (Nat.le_refl _) ?_
      simp [push, load]
    | nil =>
      have received := attends.receive holds near
      cases awaited with
      | nil => exact .none (by simp only [pick?, received]; rfl) rfl (by
          simpa [underway] using attends.taken)
      | cons event awaited =>
        refine .event (heard ++ [event]) awaited ⟨[], position + 1, some event, buffer⟩
          (by simp only [pick?, received]; rfl) (by simp) ?_ (Nat.le_succ _) ?_
        · simpa [underway] using attends.hear
        · simp only [push, load, sent, List.length_cons, Option.toList_none, List.length_nil]
          omega

/-- However far a forwarder in time gets on, it loses nothing and keeps the order. -/
theorem attends_advance (holds : joined.channel.Holds capacity front) (turns : Nat) :
    ∀ {forwarder : Forwarder} {heard awaited : List ServerEvent},
      Attends joined heard awaited hub forwarder.position (seen ++ forwarder.underway) →
      hub.channel.sent ≤ forwarder.position + hub.channel.capacity →
      ∃ now left, heard ++ awaited = now ++ left ∧
        Attends joined now left hub (forwarder.advance hub.channel turns).position
          (seen ++ (forwarder.advance hub.channel turns).underway) := by
  induction turns with
  | zero => exact fun attends _ => ⟨_, _, rfl, attends⟩
  | succ turns ih =>
    intro forwarder heard awaited attends near
    cases picks attends holds near with
    | none picks all buffered =>
      refine ⟨heard, awaited, rfl, ?_⟩
      simpa only [advance, picks] using attends
    | event now left picked picks parts taken forth lighter =>
      simp only [advance, picks, parts]
      -- Without room the event stays in hand.
      split
      · refine ih (by simpa using taken) ?_
        rw [position_push]
        omega
      · exact ⟨now, left, rfl, taken⟩

/-- A forwarder in time that gets far enough hands everything on, or fills the buffer. -/
theorem buffered_advance (holds : joined.channel.Holds capacity front) (turns : Nat) :
    ∀ {forwarder : Forwarder} {heard awaited : List ServerEvent},
      Attends joined heard awaited hub forwarder.position (seen ++ forwarder.underway) →
      hub.channel.sent ≤ forwarder.position + hub.channel.capacity →
      forwarder.load hub.channel < turns →
      (forwarder.advance hub.channel turns).hasRoom = true →
      seen ++ (forwarder.advance hub.channel turns).buffer =
        joined.replay ++ (heard ++ awaited) := by
  induction turns with
  | zero => exact fun _ _ few => absurd few (Nat.not_lt_zero _)
  | succ turns ih =>
    intro forwarder heard awaited attends near few room
    cases picks attends holds near with
    | none picks all buffered =>
      simpa only [advance, picks, all, List.append_nil] using buffered
    | event now left picked picks parts taken forth lighter =>
      simp only [advance, picks, parts] at room ⊢
      -- The turns that are left are enough for what is left.
      split at room
      · rename_i roomy
        rw [if_pos roomy]
        refine ih (by simpa using taken) ?_ (by omega) room
        rw [position_push]
        omega
      · rename_i full
        exact absurd room full

end Forwarder

namespace Viewing

variable {joined : Hub} {front : List ServerEvent} {capacity : Nat}

/-- What a dashboard has read, with what is on its way to it. -/
def taken (viewing : Viewing) : List ServerEvent :=
  viewing.seen ++ viewing.forwarder.underway

/-- What a dashboard reads was on its way to it. -/
theorem read_spec (viewing : Viewing) : (viewing.step .read).hub = viewing.hub ∧
    (viewing.step .read).forwarder.position = viewing.forwarder.position ∧
    (viewing.step .read).taken = viewing.taken := by
  obtain ⟨hub, ⟨replay, position, handing, _ | ⟨event, buffer⟩⟩, seen⟩ := viewing
  · exact ⟨rfl, rfl, rfl⟩
  · exact ⟨rfl, rfl, by simp [taken, step, Forwarder.read?, Forwarder.underway]⟩

/-- In steps in which its forwarder keeps up, a dashboard is handed the events in their order. -/
theorem attends (holds : joined.channel.Holds capacity front) {steps : List Step} :
    ∀ {viewing : Viewing} {heard awaited : List ServerEvent},
      Attends joined heard awaited viewing.hub viewing.forwarder.position viewing.taken →
      viewing.keepsUp steps = true →
      ∃ now left, heard ++ awaited ++ steps.filterMap Step.event? = now ++ left ∧
        Attends joined now left (steps.foldl step viewing).hub
          (steps.foldl step viewing).forwarder.position (steps.foldl step viewing).taken := by
  -- The induction is on the steps. Only a broadcast adds to what has to be handed on.
  induction steps with
  | nil =>
    intro viewing heard awaited attends _
    exact ⟨heard, awaited, List.append_nil _, attends⟩
  | cons first rest ih =>
    intro viewing heard awaited attends keeps
    simp only [keepsUp, Bool.and_eq_true] at keeps
    obtain ⟨near, keeps⟩ := keeps
    cases first with
    | broadcast event =>
      obtain ⟨now, left, parts, after⟩ :=
        @ih (viewing.step (.broadcast event)) heard _ (attends.more event) keeps
      exact ⟨now, left, by simpa [Step.event?] using parts, after⟩
    | forward turns =>
      obtain ⟨since, still, parts, after⟩ :=
        Forwarder.attends_advance holds turns attends (of_decide_eq_true near)
      rw [parts]
      exact @ih (viewing.step (.forward turns)) since still after keeps
    | read =>
      obtain ⟨hub, place, same⟩ := viewing.read_spec
      refine ih ?_ keeps
      rw [hub, place, same]
      exact attends

/-- A full turn of a forwarder in time hands everything on, or fills the buffer. -/
theorem buffered_run (holds : joined.channel.Holds capacity front) {viewing : Viewing}
    {heard awaited : List ServerEvent}
    (attends : Attends joined heard awaited viewing.hub viewing.forwarder.position viewing.taken)
    (near : viewing.isNear = true)
    (room : (viewing.forwarder.run viewing.hub.channel).hasRoom = true) :
    viewing.seen ++ (viewing.forwarder.run viewing.hub.channel).buffer =
      joined.replay ++ (heard ++ awaited) := by
  have close := of_decide_eq_true near
  refine Forwarder.buffered_advance holds _ attends close ?_ room
  -- Whoever is near has no more to come than the channel keeps.
  have whole := Hub.holds_broadcastAll holds (heard ++ awaited)
  rw [← attends.hub] at whole
  have kept : viewing.hub.channel.sent - viewing.forwarder.position ≤
      viewing.hub.channel.kept.length := by
    rw [whole.room, whole.sent] at close
    rw [whole.kept, whole.sent, List.length_drop]
    omega
  have single : viewing.forwarder.handing.toList.length ≤ 1 := by
    cases viewing.forwarder.handing <;> simp
  rw [Forwarder.load]
  omega

end Viewing

/--
Whoever joins a hub, at any time, is told where things stand and then misses no event.

The replay is the last earlier event of each retained name, in a fixed order. A subscriber that is
near whenever it comes for an event has seen the replay and then the first of the later events, each
once; as many wait for it as it is behind. So the last event it has seen of a retained name is the
one that is told to those who join behind what it has heard, and so when it has heard everything.
What is forwarded to a dashboard is the same sequence, of which some events may be on their way, and
a full turn of the forwarder hands all of it on unless it fills the buffer.
-/
theorem joined_dashboard_misses_nothing {least : Nat} {opened : Hub}
    (opens : Hub.ofCapacity? least = some opened) (front : List ServerEvent) :
    let joined := opened.broadcastAll front
    joined.replay = ["scoreboard_tick", "overlay", "preferences", "game_over"].filterMap
        (lastNamed? front) ∧
      (∀ steps, (Subscriber.join joined).keepsUp steps = true →
        let subscriber := steps.foldl Subscriber.step (.join joined)
        ∃ heard awaited, steps.filterMap Subscriber.Step.event? = heard ++ awaited ∧
          subscriber.hub = joined.broadcastAll (heard ++ awaited) ∧
          subscriber.seen = joined.replay ++ heard ∧
          subscriber.hub.channel.sent = subscriber.position + awaited.length ∧
          ∀ name ∈ retainedNames, lastNamed? subscriber.seen name =
            lastNamed? (joined.broadcastAll heard).replay name) ∧
      ∀ steps, (Viewing.join joined).keepsUp steps = true →
        let viewing := steps.foldl Viewing.step (.join joined)
        ∃ heard awaited, steps.filterMap Viewing.Step.event? = heard ++ awaited ∧
          viewing.hub = joined.broadcastAll (heard ++ awaited) ∧
          viewing.seen ++ viewing.forwarder.underway = joined.replay ++ heard ∧
          viewing.hub.channel.sent = viewing.forwarder.position + awaited.length ∧
          (viewing.isNear = true → (viewing.forwarder.run viewing.hub.channel).hasRoom = true →
            viewing.seen ++ (viewing.forwarder.run viewing.hub.channel).buffer =
              joined.replay ++ (heard ++ awaited)) := by
  -- A subscriber and a viewing both attend from the moment of joining, with nothing heard yet.
  have holds := Hub.holds_broadcastAll (Hub.holds_ofCapacity? opens) front
  refine ⟨Hub.replay_broadcastAll opens front, fun steps keeps => ?_, fun steps keeps => ?_⟩
  · obtain ⟨heard, awaited, parts, attends⟩ := Subscriber.attends holds (Attends.begin _) keeps
    rw [List.append_nil, List.nil_append] at parts
    exact ⟨heard, awaited, parts, attends.hub, attends.taken, attends.sent holds,
      fun name retained => attends.lastNamed? opens retained⟩
  · -- A dashboard that has just joined has the whole replay on its way.
    have begins : Attends (opened.broadcastAll front) [] [] (Viewing.join _).hub
        (Viewing.join (opened.broadcastAll front)).forwarder.position
        (Viewing.join (opened.broadcastAll front)).taken := Attends.begin _
    obtain ⟨heard, awaited, parts, attends⟩ := Viewing.attends holds begins keeps
    rw [List.append_nil, List.nil_append] at parts
    exact ⟨heard, awaited, parts, attends.hub, attends.taken, attends.sent holds,
      fun near room => Viewing.buffered_run holds attends near room⟩

namespace Sample

/-- A hub that keeps two events, and has had none. -/
def narrowHub : Hub :=
  ⟨.ofCapacity 2, []⟩

/-- Events published before anybody joins: the second overlay takes the place of the first. -/
def published : List ServerEvent :=
  [⟨some "overlay", "idle"⟩, ⟨some "first_blood", "web"⟩, ⟨some "scoreboard_tick", "7"⟩,
    ⟨some "overlay", "pyro"⟩, ⟨none, "hello"⟩]

/-- Three more events for a hub of two, each seen before it would be lost. -/
def subscription : List Subscriber.Step :=
  [.broadcast ⟨some "scoreboard_tick", "8"⟩, .broadcast ⟨some "first_blood", "pwn"⟩, .receive,
    .broadcast ⟨some "overlay", "idle"⟩, .receive, .receive]

/-- The same events, forwarded in time and read one by one. -/
def viewing : List Viewing.Step :=
  [.broadcast ⟨some "scoreboard_tick", "8"⟩, .broadcast ⟨some "first_blood", "pwn"⟩, .forward 9,
    .read, .broadcast ⟨some "overlay", "idle"⟩, .forward 9, .read, .read, .read, .read]

end Sample

/-- Who joins late and keeps up with a hub of two has seen what matters and all three events. -/
theorem late_dashboard_sees_all :
    let joined := Sample.narrowHub.broadcastAll Sample.published
    let later : List ServerEvent := [⟨some "scoreboard_tick", "8"⟩, ⟨some "first_blood", "pwn"⟩,
      ⟨some "overlay", "idle"⟩]
    Hub.ofCapacity? 2 = some Sample.narrowHub ∧
      joined.replay = [⟨some "scoreboard_tick", "7"⟩, ⟨some "overlay", "pyro"⟩] ∧
      (Sample.subscription.foldl Subscriber.step (.join joined)).seen = joined.replay ++ later ∧
      (Sample.viewing.foldl Viewing.step (.join joined)).seen = joined.replay ++ later := by
  have opens : Hub.ofCapacity? 2 = some Sample.narrowHub := rfl
  obtain ⟨replay, sees, reads⟩ := joined_dashboard_misses_nothing opens Sample.published
  refine ⟨opens, replay.trans (by decide), ?_, ?_⟩
  · obtain ⟨heard, awaited, parts, _, seen, left, _⟩ := sees Sample.subscription (by decide)
    -- All eight events have been passed.
    change 8 = 8 + awaited.length at left
    obtain rfl : awaited = [] := List.length_eq_zero_iff.mp (by omega)
    rw [List.append_nil] at parts
    rw [seen, ← parts]
    rfl
  · obtain ⟨heard, awaited, parts, _, taken, left, _⟩ := reads Sample.viewing (by decide)
    change 8 = 8 + awaited.length at left
    obtain rfl : awaited = [] := List.length_eq_zero_iff.mp (by omega)
    rw [List.append_nil] at parts
    -- Nothing is on its way any more.
    change _ ++ [] = _ at taken
    rw [List.append_nil] at taken
    rw [taken, ← parts]
    rfl

end Scoreboard
