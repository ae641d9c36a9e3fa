import Scoreboard.Proofs.Dashboards.Retention
import Scoreboard.Proofs.Relay.Documents

/-! The overlay events: they tell of every change, but for a podium that has just been stored. -/

namespace Scoreboard

namespace Overlay

/-- What an overlay shows: the banner, the animation and the podium. -/
def parts (overlay : Overlay) : Banner × PyroStage × List PodiumEntry :=
  (overlay.banner, overlay.pyro, overlay.podium)

/-- No podium comes and no animation starts, and an overlay that is said to be as before is so. -/
structure Adjusts (overlay : Overlay) (result : Overlay × Bool) : Prop where
  podium : result.1.podium = overlay.podium
  pyroGeneration : result.1.pyroGeneration = overlay.pyroGeneration
  unchanged : result.2 = false → result.1 = overlay

/-- Taking the banner away leaves the podium alone. -/
theorem adjusts_dismissFirstBlood (overlay : Overlay) :
    overlay.Adjusts overlay.dismissFirstBlood := by
  unfold dismissFirstBlood
  split <;> exact ⟨rfl, rfl, by simp⟩

/-- The end of the time of a banner leaves the podium alone. -/
theorem adjusts_expireFirstBlood (overlay : Overlay) (generation : UInt64) :
    overlay.Adjusts (overlay.expireFirstBlood generation) := by
  -- The timer of an older banner finds a younger one, or none.
  unfold expireFirstBlood
  split
  · split <;> exact ⟨rfl, rfl, by simp⟩
  · exact ⟨rfl, rfl, by simp⟩

/-- The reveal of the animation leaves the podium alone. -/
theorem adjusts_revealPyro (overlay : Overlay) (generation : UInt64) :
    overlay.Adjusts (overlay.revealPyro generation) := by
  unfold revealPyro
  split <;> exact ⟨rfl, rfl, by simp⟩

/-- The end of the animation leaves the podium alone. -/
theorem adjusts_endPyro (overlay : Overlay) (generation : UInt64) :
    overlay.Adjusts (overlay.endPyro generation) := by
  unfold endPyro
  split <;> exact ⟨rfl, rfl, by simp⟩

/-- Whichever timer runs out, the podium is left alone. -/
theorem adjusts_ranOut (overlay : Overlay) (timer : OverlayTimer) :
    overlay.Adjusts (overlay.ranOut timer) := by
  -- Each kind of timer has its own adjustment.
  cases timer with
  | bannerExpiry generation => exact adjusts_expireFirstBlood overlay generation
  | pyroReveal generation => exact adjusts_revealPyro overlay generation
  | pyroEnd generation => exact adjusts_endPyro overlay generation

/-- Two overlays that differ in the podium alone are written alike when the podiums are. -/
theorem write_setPodium_iff (overlay : Overlay) (podium : List PodiumEntry) :
    (overlay.setPodium podium).write = overlay.write ↔
      writePodium podium = writePodium overlay.podium := by
  simp [write, setPodium, writeObject, writeMember, commaSeparated]

end Overlay

namespace Turn

variable {turn : Turn}

/-- The turn tells the dashboards of the overlay. -/
def tellsOverlay (turn : Turn) : Bool :=
  !(turn.broadcasts "overlay").isEmpty

/-- What a turn does to the overlay. -/
inductive Overlays (turn : Turn) : Prop
  | silent (untold : turn.broadcasts "overlay" = [])
      (same : turn.after.overlay = turn.before.overlay)
  | told (told : turn.broadcasts "overlay" = [.overlay turn.after.overlay])
      (podium : turn.after.overlay.podium = turn.before.overlay.podium)
  /-- A podium is stored, and no dashboard is told of the overlay. -/
  | stored (winners : List PodiumEntry) (untold : turn.broadcasts "overlay" = [])
      (stored : turn.after.overlay = turn.before.overlay.setPodium winners)

/-- A turn that leaves the overlay alone and brings other events at most is silent. -/
theorem Overlays.of_others {told : List Signal} (tells : turn.before.Tells turn.after told)
    (quiet : turn.before.signals = [])
    (others : ∀ event, .broadcast event ∈ told → event.event ≠ some "overlay")
    (same : turn.after.overlay = turn.before.overlay) : turn.Overlays :=
  .silent (broadcasts_eq_nil tells quiet others) same

/-- A turn that leaves the overlay alone and tells nobody anything is silent. -/
theorem Overlays.of_nothing (untold : turn.after.signals = turn.before.signals)
    (quiet : turn.before.signals = []) (same : turn.after.overlay = turn.before.overlay) :
    turn.Overlays :=
  .silent (by rw [broadcasts, untold, quiet]; rfl) same

/-- A turn that adjusts the overlay tells of that, or is silent. -/
theorem Overlays.of_overlayChanged {result : Overlay × Bool}
    (adjusts : turn.before.overlay.Adjusts result) (quiet : turn.before.signals = [])
    (after : turn.after = (turn.before.overlayChanged result).1) : turn.Overlays := by
  have tells := turn.before.tells_overlayChanged result
  rw [← after] at tells
  -- The second part of the result tells the two cases apart.
  obtain ⟨overlay, _ | _⟩ := result
  · -- The overlay is as it was before, and nothing is told.
    refine .of_others tells quiet (by simp) ?_
    rw [after]
    exact adjusts.unchanged rfl
  · refine .told ?_ (by rw [after]; exact adjusts.podium)
    rw [broadcasts_of_tells tells quiet, after]
    rfl

/-- Every deed tells of the overlay that it leaves, leaves it alone, or stores a podium. -/
theorem Deed.overlays (deed : turn.Deed) (quiet : turn.before.signals = []) : turn.Overlays := by
  -- The deeds on the overlay come first, then those that tell of other things.
  cases deed with
  | shows service team plain after =>
    have tells := turn.before.tells_showBanner service team
    rw [← after] at tells
    refine .told ?_ (by rw [after]; rfl)
    rw [broadcasts_of_tells tells quiet]
    rfl
  | plays parts winners occasion last after =>
    have tells := turn.before.tells_playPyro
    rw [← after] at tells
    refine .told ?_ (by rw [after]; rfl)
    rw [broadcasts_of_tells tells quiet]
    rfl
  | dismisses plain after =>
    exact .of_overlayChanged (Overlay.adjusts_dismissFirstBlood _) quiet after
  | runsOut timer plain after =>
    rw [Relay.runOut_eq] at after
    exact .of_overlayChanged (Overlay.adjusts_ranOut _ timer) quiet after
  | keeps parts winners occasion last after =>
    exact .stored winners (by rw [broadcasts, after]; simp [quiet]) (by rw [after])
  | settles parts use tick snapshot occasion last after =>
    obtain ⟨rounds, histories, events, settled⟩ :=
      turn.before.settleRound_eq tick snapshot.round
    rw [settled] at after
    exact .of_others (after ▸ Relay.tells_events events) quiet (by simp) (by rw [after])
  | absorbs parts again response occasion plain after =>
    obtain ⟨bus, hub, signals, absorbed⟩ :=
      turn.before.absorbState_eq response turn.now.unix turn.jitter
    have tells := turn.before.tells_absorbState response turn.now.unix turn.jitter
    rw [← after] at tells
    refine .of_others tells quiet ?_ (by rw [after, absorbed])
    -- A poll brings the event of another scoreboard at most.
    intro event member
    split at member
    · rw [Transition.eq_of_mem_signals member]
      simp [ServerEvent.scoreboardTick, ServerEvent.ofDocument]
    · cases member
  | misses plain after =>
    obtain ⟨hub, signals, missed⟩ := turn.before.missState_eq
    have tells := turn.before.tells_missState
    rw [← after] at tells
    refine .of_others tells quiet ?_ (by rw [after, missed])
    cases turn.before.degraded <;> simp [ServerEvent.info]
  | blood use service team hands plain after =>
    exact .of_others (after ▸ Relay.tells_broadcast _) quiet
      (by simp [ServerEvent.firstBlood, ServerEvent.ofDocument]) (by rw [after]; rfl)
  | names parts tick round occasion last after =>
    exact .of_others (after ▸ Relay.tells_broadcast _) quiet
      (by simp [ServerEvent.gameOver, ServerEvent.ofDocument]) (by rw [after]; rfl)
  | joins plain after =>
    exact .of_others (after ▸ turn.before.tells_joinDashboard) quiet
      (by simp [ServerEvent.info]) (by rw [after]; rfl)
  | prefers preferences plain after =>
    exact .of_others (after ▸ Relay.tells_updatePreferences preferences) quiet
      (by simp [ServerEvent.preferences, ServerEvent.ofDocument]) (by rw [after]; rfl)
  | final use tick hands plain after =>
    exact .of_others (after ▸ Relay.tells_start _) quiet (by simp) (by rw [after]; rfl)
  | emits event plain after =>
    exact .of_others (after ▸ Relay.tells_emit _) quiet (by simp) (by rw [after]; rfl)
  -- All other deeds leave the signals alone, and the overlay with them.
  | goes _ after => exact .of_nothing (by rw [after]) quiet (by rw [after])
  | stores use tick retry reply round occasion served after =>
    exact .of_nothing (by rw [after]; rfl) quiet (by rw [after]; rfl)
  | files use team retry reply history occasion served plain after =>
    exact .of_nothing (by rw [after]) quiet (by rw [after])
  | learns teams plain after => exact .of_nothing (by rw [after]) quiet (by rw [after])
  | replaces parts current live occasion plain after =>
    exact .of_nothing (by rw [after]) quiet (by rw [after])

/-- The overlay of a turn that tells of it is the last one that the turn tells of. -/
theorem Overlays.of_tellsOverlay (overlays : turn.Overlays) (tells : turn.tellsOverlay = true) :
    turn.broadcasts "overlay" = [.overlay turn.after.overlay] ∧
      turn.after.overlay.podium = turn.before.overlay.podium := by
  -- A turn is one of three kinds, and the two others tell nothing.
  cases overlays with
  | told told podium => exact ⟨told, podium⟩
  | silent untold same => simp [tellsOverlay, untold] at tells
  | stored winners untold stored => simp [tellsOverlay, untold] at tells

/-- A turn that tells nothing of the overlay stores a podium at most. -/
theorem Overlays.of_not_tellsOverlay (overlays : turn.Overlays)
    (tells : turn.tellsOverlay = false) : turn.broadcasts "overlay" = [] ∧
      ∃ winners, turn.after.overlay = turn.before.overlay.setPodium winners := by
  -- A turn that tells nothing changes nothing, or stores a podium.
  cases overlays with
  | told told podium => simp [tellsOverlay, told] at tells
  | silent untold same => exact ⟨untold, turn.before.overlay.podium, same⟩
  | stored winners untold stored => exact ⟨untold, winners, stored⟩

end Turn

/-- The last turn that told the dashboards of the overlay. -/
def lastTold? (past : List Turn) : Option Turn :=
  (past.filter Turn.tellsOverlay).getLast?

/-- The last turn that tells of the overlay is the last one, if that does, and an earlier one
otherwise. -/
theorem lastTold?_concat (past : List Turn) (turn : Turn) :
    lastTold? (past ++ [turn]) = if turn.tellsOverlay then some turn else lastTold? past := by
  cases tells : turn.tellsOverlay <;> simp [lastTold?, tells]

/-- Every turn that brings another podium is followed by one that tells of the overlay. -/
def PodiumsFollowed (past : List Turn) : Prop :=
  ∀ earlier turn later, past = earlier ++ turn :: later →
    turn.after.overlay.podium ≠ turn.before.overlay.podium → ∃ told ∈ later, told.tellsOverlay

/-- A turn of a run does to the overlay what a turn can do. -/
theorem Run.overlays {backend : Backend} {start world : World} {past : List Turn}
    (quiet : start.relay.signals = []) (run : Run backend start past world) {turn : Turn}
    (member : turn ∈ past) : turn.Overlays :=
  (run.deed member).overlays (run.quiet_of_mem quiet member)

section Dashboards

variable {backend : Backend} {notificationInterval : Nat} {preferences : Preferences}
  {tasks : List NewTask} {past : List Turn} {world : World}

/-- The overlay is the one that was told last, or nothing at first, but for its podium. -/
theorem Run.overlay_told
    (run : Run backend (.initial notificationInterval preferences tasks) past world) :
    match lastTold? past with
    | none => broadcastsOf past "overlay" = [] ∧
        world.relay.overlay = Overlay.initial.setPodium world.relay.overlay.podium
    | some turn => (broadcastsOf past "overlay").getLast? =
        some (.overlay (world.relay.overlay.setPodium turn.after.overlay.podium)) := by
  -- The invariant leaves the podium open, for that alone can change without being told.
  induction run with
  | begin => exact ⟨rfl, rfl⟩
  | @step past world later turn run step ih =>
    have overlays := step.deed.overlays (step.before ▸ run.quiet rfl)
    have broadcasts : broadcastsOf (past ++ [turn]) "overlay" =
        broadcastsOf past "overlay" ++ turn.broadcasts "overlay" := by simp [broadcastsOf]
    rw [broadcasts, step.overlay, lastTold?_concat]
    cases tells : turn.tellsOverlay with
    | true =>
      -- The turn is the last one to tell, and it tells of the overlay that it leaves.
      obtain ⟨told, _⟩ := overlays.of_tellsOverlay tells
      simp [told, Overlay.setPodium]
    | false =>
      -- What was told last stays so, and at most the podium is another one.
      obtain ⟨untold, winners, stored⟩ := overlays.of_not_tellsOverlay tells
      rw [untold, List.append_nil, stored, step.before, if_neg Bool.false_ne_true]
      cases last : lastTold? past with
      | some teller =>
        rw [last] at ih
        exact ih
      | none =>
        rw [last] at ih
        exact ⟨ih.1, congrArg (·.setPodium winners) ih.2⟩

/-- While podiums are followed, the podium is the one that was told last, or the first one. -/
theorem Run.podium_told
    (run : Run backend (.initial notificationInterval preferences tasks) past world)
    (followed : PodiumsFollowed past) :
    world.relay.overlay.podium =
      ((lastTold? past).map fun turn => turn.after.overlay.podium).getD [] := by
  induction run with
  | begin => rfl
  | @step past world later turn run step ih =>
    rw [step.overlay, lastTold?_concat]
    cases tells : turn.tellsOverlay with
    | true => rfl
    | false =>
      -- Nothing follows on the turn, so it does not bring another podium.
      have kept : turn.after.overlay.podium = turn.before.overlay.podium := by
        by_contra changed
        obtain ⟨told, none, _⟩ := followed past turn [] rfl changed
        cases none
      -- A turn that tells and follows on one of the earlier turns is an earlier one.
      have before : PodiumsFollowed past := by
        intro earlier other rest parts changed
        obtain ⟨told, member, teller⟩ :=
          followed earlier other (rest ++ [turn]) (by rw [parts]; simp) changed
        rcases List.mem_append.mp member with inside | last
        · exact ⟨told, inside, teller⟩
        · rw [List.mem_singleton.mp last, tells] at teller
          cases teller
      rw [kept, step.before, if_neg Bool.false_ne_true]
      exact ih before

/-- Where podiums are followed and the overlay has changed, the dashboards have been told. -/
theorem Run.lastTold_ne_none
    (run : Run backend (.initial notificationInterval preferences tasks) past world)
    (followed : PodiumsFollowed past)
    (changed : ∃ turn ∈ past, turn.after.overlay.parts ≠ turn.before.overlay.parts) :
    lastTold? past ≠ none := by
  obtain ⟨turn, member, different⟩ := changed
  -- The turn itself tells, or it stores a podium and one behind it tells.
  have told : ∃ teller ∈ past, teller.tellsOverlay := by
    cases tells : turn.tellsOverlay with
    | true => exact ⟨turn, member, tells⟩
    | false =>
      obtain ⟨_, winners, stored⟩ := (run.overlays rfl member).of_not_tellsOverlay tells
      obtain ⟨earlier, later, parts⟩ := List.append_of_mem member
      have podium : turn.after.overlay.podium ≠ turn.before.overlay.podium := by
        intro same
        apply different
        rw [stored] at same ⊢
        simpa [Overlay.parts, Overlay.setPodium] using same
      obtain ⟨teller, behind, tells⟩ := followed earlier turn later parts podium
      exact ⟨teller, by simp [parts, behind], tells⟩
  obtain ⟨teller, member, tells⟩ := told
  rw [lastTold?, Ne, List.getLast?_eq_none_iff]
  exact List.ne_nil_of_mem (List.mem_filter.mpr ⟨member, tells⟩)

/-- Right after a turn that tells of the overlay, all podiums are followed. -/
theorem Run.followed_of_last {turn : Turn}
    (run : Run backend (.initial notificationInterval preferences tasks) past world)
    (last : past.getLast? = some turn) (tells : turn.tellsOverlay = true) :
    PodiumsFollowed past := by
  -- The last turn follows on every other one.
  intro earlier other later parts changed
  rcases List.eq_nil_or_concat later with rfl | ⟨front, final, rfl⟩
  · -- The last turn tells of the overlay, so the podium stays.
    obtain rfl : other = turn := by simpa [parts] using last
    obtain ⟨_, podium⟩ := (run.overlays rfl (List.mem_of_getLast? last)).of_tellsOverlay tells
    exact absurd podium changed
  · have ends : past.getLast? = some final := by
      rw [parts, List.concat_eq_append, ← List.cons_append, ← List.append_assoc,
        List.getLast?_concat]
    obtain rfl : final = turn := by simpa [last] using ends.symm
    exact ⟨final, by simp, tells⟩

/-- The event of an overlay is the one of another when both are written alike. -/
theorem ServerEvent.overlay_eq_iff (first second : Overlay) :
    ServerEvent.overlay first = .overlay second ↔ first.write = second.write := by
  simp [ServerEvent.overlay, ServerEvent.ofDocument, String.ofList_inj]

/--
The dashboards know the overlay, but for a podium that nobody has been told of since it was stored.

The last overlay event is the one that is kept for dashboards to come. It is the event of the
present overlay, which is also what a request for the overlay is answered with, if and only if the
podium is written as it was when the overlay was told last. So once the overlay has changed, they
agree whenever every new podium has been followed by another change that was told.
-/
theorem overlay_told_but_for_podium
    (run : Run backend (.initial notificationInterval preferences tasks) past world) :
    world.relay.hub.latest? "overlay" = (broadcastsOf past "overlay").getLast? ∧
    (∀ now request, world.relay.answerRoute now request .overlay =
      world.relay.respond (.ofDocument world.relay.overlay.write)) ∧
    ((broadcastsOf past "overlay").getLast? = some (.overlay world.relay.overlay) ↔
      ∃ turn, lastTold? past = some turn ∧
        writePodium turn.after.overlay.podium = writePodium world.relay.overlay.podium) ∧
    (PodiumsFollowed past →
      (∃ turn ∈ past, turn.after.overlay.parts ≠ turn.before.overlay.parts) →
      (broadcastsOf past "overlay").getLast? = some (.overlay world.relay.overlay)) := by
  have told := run.overlay_told
  have exactly : (broadcastsOf past "overlay").getLast? = some (.overlay world.relay.overlay) ↔
      ∃ turn, lastTold? past = some turn ∧
        writePodium turn.after.overlay.podium = writePodium world.relay.overlay.podium := by
    cases last : lastTold? past with
    | none =>
      rw [last] at told
      simp [told.1]
    | some turn =>
      -- What was told last differs from the present overlay in its podium at most.
      rw [last] at told
      simp only [told, Option.some.injEq, exists_eq_left', ServerEvent.overlay_eq_iff,
        Overlay.write_setPodium_iff]
  refine ⟨run.latest? (by decide), fun _ _ => rfl, exactly, fun followed changed => ?_⟩
  -- While podiums are followed, the podium of the last turn to tell is the present one.
  obtain ⟨turn, last⟩ := Option.ne_none_iff_exists'.mp (run.lastTold_ne_none followed changed)
  have podium := run.podium_told followed
  rw [last] at podium
  exact exactly.mpr ⟨turn, last, by rw [podium]; rfl⟩

end Dashboards

set_option maxRecDepth 100000 in
/-- With notifications, the animation at the end of the game tells of the podium as well. -/
theorem animation_tells_of_podium :
    ∃ past world, Run Sample.backend Sample.start past world ∧
      world.relay.overlay.podium.length = 1 ∧
      (broadcastsOf past "overlay").getLast? = some (.overlay world.relay.overlay) := by
  have replayed : (Sample.start.replay Sample.answers [] Sample.playedEnd).map (fun reached =>
      (reached.2.relay.overlay.podium.length, reached.1.getLast?.map Turn.tellsOverlay,
        reached.1.any fun turn => turn.after.overlay.pyro ≠ turn.before.overlay.pyro)) =
      some (1, some true, true) := by decide +kernel
  obtain ⟨past, world, run, facts⟩ := Run.of_replay replayed
  simp only [Prod.mk.injEq] at facts
  obtain ⟨podium, last, changed⟩ := facts
  obtain ⟨final, final_last, tells⟩ := Option.map_eq_some_iff.mp last
  obtain ⟨turn, member, pyro⟩ := List.any_eq_true.mp changed
  refine ⟨past, world, run, podium, ?_⟩
  -- The last turn tells of the overlay, so every podium before it is followed.
  refine (overlay_told_but_for_podium run).2.2.2 (run.followed_of_last final_last tells) ?_
  refine ⟨turn, member, fun same => of_decide_eq_true pyro ?_⟩
  exact congrArg (fun parts => parts.2.1) same

set_option maxRecDepth 100000 in
/-- Without notifications, a podium is stored and the dashboards are never told of the overlay. -/
theorem podium_stored_untold :
    ∃ past world, Run Sample.backend Sample.mutedStart past world ∧
      (∃ turn ∈ past, turn.after.overlay.parts ≠ turn.before.overlay.parts) ∧
      (broadcastsOf past "overlay").getLast? ≠ some (.overlay world.relay.overlay) := by
  -- The run is replayed to its end, and none of its turns has told of the overlay by then.
  have replayed : (Sample.mutedStart.replay Sample.answers [] Sample.mutedEnd).map (fun reached =>
      (broadcastsOf reached.1 "overlay", reached.1.any fun turn =>
        turn.after.overlay.podium.length ≠ turn.before.overlay.podium.length)) =
      some ([], true) := by decide +kernel
  obtain ⟨past, world, run, facts⟩ := Run.of_replay replayed
  simp only [Prod.mk.injEq] at facts
  obtain ⟨untold, changed⟩ := facts
  obtain ⟨turn, member, longer⟩ := List.any_eq_true.mp changed
  refine ⟨past, world, run, ⟨turn, member, fun same => ?_⟩, by simp [untold]⟩
  exact of_decide_eq_true longer (congrArg (fun parts => parts.2.2.length) same)

end Scoreboard
