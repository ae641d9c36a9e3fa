import Mathlib.Data.List.Chain
import Mathlib.Data.List.Forall2
import Mathlib.Order.Bounds.Basic
import Scoreboard.Pacing.Limiter

/-! Spacing: a limiter holds items back as long as their distance asks for it, and no longer. -/

namespace Scoreboard

namespace Limiter

/-- Two moments are at least an interval apart, the first one first. -/
def Apart (interval first second : Nat) : Prop :=
  first + interval ≤ second

/-- A limiter permits its next release no later than another one of the same interval. -/
structure NoLater (limiter other : Limiter) : Prop where
  interval : limiter.interval = other.interval
  permitted : limiter.nextPermitted.getD 0 ≤ other.nextPermitted.getD 0

/-- A limiter that was asked for items one after another. -/
def after (limiter : Limiter) (calls : List Nat) : Limiter :=
  calls.foldl (fun limiter now => (limiter.schedule now).2) limiter

/-- What the calls up to a place ask for: their own moments, and an interval more for each since. -/
def demands (interval : Nat) (calls : List Nat) (place : Nat) : Set Nat :=
  {moment | ∃ earlier ≤ place, ∃ call, calls[earlier]? = some call ∧
    moment = call + (place - earlier) * interval}

section Schedule

variable {limiter other : Limiter} {calls releases : List Nat} {now : Nat}

/-- The next release is permitted an interval behind the last one. -/
theorem permitted_schedule :
    (limiter.schedule now).2.nextPermitted.getD 0 = (limiter.schedule now).1 + limiter.interval :=
  rfl

/-- An item comes out at once, or as soon as it is permitted. -/
theorem release_eq : (limiter.schedule now).1 = max now (limiter.nextPermitted.getD 0) := by
  unfold schedule release
  cases limiter.nextPermitted <;> simp

/-- Nothing is released before it is there. -/
theorem le_release : now ≤ (limiter.schedule now).1 :=
  release_eq ▸ Nat.le_max_left _ _

/-- Each call is released once. -/
theorem length_scheduleAll (limiter : Limiter) (calls : List Nat) :
    (limiter.scheduleAll calls).length = calls.length := by
  induction calls generalizing limiter with
  | nil => rfl
  | cons now later ih => exact congrArg Nat.succ (ih _)

/-- The first item comes out at once, or as soon as it is permitted. -/
theorem head?_scheduleAll : (limiter.scheduleAll calls).head? =
    calls.head?.map fun now => max now (limiter.nextPermitted.getD 0) := by
  cases calls with
  | nil => rfl
  | cons now later => exact congrArg some release_eq

/-- Each further item comes out once it is there and the interval since the one before is over. -/
theorem getElem?_scheduleAll_succ {place call before : Nat} (later : calls[place + 1]? = some call)
    (first : (limiter.scheduleAll calls)[place]? = some before) :
    (limiter.scheduleAll calls)[place + 1]? = some (max call (before + limiter.interval)) := by
  induction calls generalizing limiter place with
  | nil => cases later
  | cons now calls ih =>
    cases place with
    | succ place => exact @ih (limiter.schedule now).2 place later first
    | zero =>
      -- The second item is the first one behind the limiter that has released the first one.
      cases first
      have second := @head?_scheduleAll (limiter.schedule now).2 calls
      rw [List.getElem?_cons_succ, ← List.head?_eq_getElem?] at later
      rw [later, permitted_schedule] at second
      exact List.head?_eq_getElem? ▸ second

/-- No item comes out before it is there. -/
theorem call_le_scheduleAll (limiter : Limiter) (calls : List Nat) :
    List.Forall₂ (· ≤ ·) calls (limiter.scheduleAll calls) := by
  induction calls generalizing limiter with
  | nil => exact .nil
  | cons now later ih => exact .cons le_release (ih _)

/-- Items that come out one after the other are an interval apart. -/
theorem apart_scheduleAll (limiter : Limiter) (calls : List Nat) :
    (limiter.scheduleAll calls).IsChain (Apart limiter.interval) := by
  induction calls generalizing limiter with
  | nil => exact .nil
  | cons now later ih =>
    refine List.isChain_cons.mpr ⟨?_, ih (limiter.schedule now).2⟩
    -- The next release is a maximum with the moment that the first one permits it from.
    intro next first
    rw [head?_scheduleAll, permitted_schedule] at first
    obtain ⟨call, _, rfl⟩ := Option.map_eq_some_iff.mp first
    exact Nat.le_max_right _ _

/-- Items that come out at other moments, none too early, come out no sooner than a limiter's. -/
theorem scheduleAll_le {others : List Nat} (there : List.Forall₂ (· ≤ ·) calls others)
    (apart : others.IsChain (Apart limiter.interval))
    (permitted : ∀ first ∈ others.head?, limiter.nextPermitted.getD 0 ≤ first) :
    List.Forall₂ (· ≤ ·) (limiter.scheduleAll calls) others := by
  -- At each item the limiter permits the next release no later than the others need it.
  induction there generalizing limiter with
  | nil => exact .nil
  | @cons now other calls others waits _ ih =>
    obtain ⟨next, apart⟩ := List.isChain_cons.mp apart
    have released : (limiter.schedule now).1 ≤ other := by
      rw [release_eq]
      exact Nat.max_le.mpr ⟨waits, permitted other rfl⟩
    -- What the limiter permits next is an interval behind its own release, which is no later.
    refine .cons released (@ih (limiter.schedule now).2 apart ?_)
    intro first member
    rw [permitted_schedule]
    exact (Nat.add_le_add_right released _).trans (next first member)

/-- The release of an item is the latest moment that a call up to its own makes it wait for. -/
theorem isGreatest_scheduleAll {interval place release : Nat}
    (released : ((ofInterval interval).scheduleAll calls)[place]? = some release) :
    IsGreatest (demands interval calls place) release := by
  -- The induction is on the place: one more item adds an interval to all demands so far.
  induction place generalizing release with
  | zero =>
    -- Nothing was released before the first item, so its own call is all it waits for.
    rw [← List.head?_eq_getElem?, head?_scheduleAll] at released
    obtain ⟨call, first, rfl⟩ := Option.map_eq_some_iff.mp released
    rw [List.head?_eq_getElem?] at first
    refine ⟨⟨0, Nat.le_refl 0, call, first, by simp [ofInterval]⟩, ?_⟩
    rintro moment ⟨earlier, before, other, there, rfl⟩
    obtain rfl := Nat.le_zero.mp before
    cases first.symm.trans there
    simp
  | succ place ih =>
    have within : place + 1 < calls.length := by
      rw [← length_scheduleAll (ofInterval interval)]
      exact (List.getElem?_eq_some_iff.mp released).1
    obtain ⟨own, called⟩ : ∃ own, calls[place + 1]? = some own :=
      ⟨_, List.getElem?_eq_getElem within⟩
    obtain ⟨before, first⟩ : ∃ before,
        ((ofInterval interval).scheduleAll calls)[place]? = some before :=
      ⟨_, List.getElem?_eq_getElem (by rw [length_scheduleAll]; omega)⟩
    obtain ⟨⟨earliest, upTo, call, there, reached⟩, greatest⟩ := ih first
    obtain rfl : max own (before + interval) = release :=
      Option.some.inj ((getElem?_scheduleAll_succ called first).symm.trans released)
    -- A demand of an earlier call is an interval more than it was one item before.
    have more {earlier : Nat} (upTo : earlier ≤ place) :
        (place + 1 - earlier) * interval = (place - earlier) * interval + interval := by
      rw [Nat.sub_add_comm upTo, Nat.succ_mul]
    constructor
    · -- The item waits for its own call, or for the call that the one before has waited for.
      rcases Nat.le_total (before + interval) own with late | early
      · exact ⟨place + 1, Nat.le_refl _, own, called, by simpa using late⟩
      · refine ⟨earliest, Nat.le_succ_of_le upTo, call, there, ?_⟩
        rw [more upTo, ← Nat.add_assoc, ← reached]
        exact Nat.max_eq_right early
    · -- No demand is later: it is the item's own, or an interval more than one of the item before.
      rintro moment ⟨earlier, within, other, there, rfl⟩
      rcases Nat.le_succ_iff.mp within with upTo | rfl
      · rw [more upTo, ← Nat.add_assoc]
        exact (Nat.add_le_add_right (greatest ⟨earlier, upTo, other, there, rfl⟩) interval).trans
          (Nat.le_max_right _ _)
      · cases called.symm.trans there
        simp

/-- Calls are released one behind the other. -/
theorem scheduleAll_append (limiter : Limiter) (front back : List Nat) :
    limiter.scheduleAll (front ++ back) =
      limiter.scheduleAll front ++ (limiter.after front).scheduleAll back := by
  induction front generalizing limiter with
  | nil => rfl
  | cons now later ih => exact congrArg _ (ih _)

/-- The later calls are released by the limiter that the earlier ones leave. -/
theorem drop_scheduleAll (limiter : Limiter) (front back : List Nat) :
    (limiter.scheduleAll (front ++ back)).drop front.length =
      (limiter.after front).scheduleAll back := by
  rw [scheduleAll_append, ← length_scheduleAll limiter front, List.drop_left]

namespace NoLater

/-- A limiter permits no later than itself. -/
theorem refl (limiter : Limiter) : limiter.NoLater limiter :=
  ⟨rfl, Nat.le_refl _⟩

/-- A call that comes no later is released no later. -/
theorem release_le (noLater : limiter.NoLater other) {later : Nat} (before : now ≤ later) :
    (limiter.schedule now).1 ≤ (other.schedule later).1 := by
  rw [release_eq, release_eq]
  have permitted := noLater.permitted
  omega

/-- Of two limiters, the one that permits no later does so behind a call that is no later. -/
theorem schedule (noLater : limiter.NoLater other) {later : Nat} (before : now ≤ later) :
    (limiter.schedule now).2.NoLater (other.schedule later).2 := by
  refine ⟨noLater.interval, ?_⟩
  rw [permitted_schedule, permitted_schedule, noLater.interval]
  exact Nat.add_le_add_right (noLater.release_le before) _

/-- A call that comes on top puts the next release off, if it changes anything. -/
theorem schedule_right (noLater : limiter.NoLater other) (now : Nat) :
    limiter.NoLater (other.schedule now).2 := by
  refine ⟨noLater.interval, noLater.permitted.trans ?_⟩
  rw [permitted_schedule, release_eq]
  exact (Nat.le_max_right _ _).trans (Nat.le_add_right _ _)

/-- Calls that come later, and calls on top, put the next release off, if they change anything. -/
theorem after {calls more : List Nat} (noLater : limiter.NoLater other)
    (among : List.SublistForall₂ (· ≤ ·) calls more) :
    (limiter.after calls).NoLater (other.after more) := by
  -- The induction follows the matching: a call has a later counterpart, or one comes on top.
  induction among generalizing limiter other with
  | @nil more =>
    induction more generalizing other with
    | nil => exact noLater
    | cons now more ih => exact ih (noLater.schedule_right now)
  | cons before _ ih => exact ih (noLater.schedule before)
  | @cons_right now _ _ _ ih => exact ih (noLater.schedule_right now)

/-- A limiter that permits no later releases no call later. -/
theorem scheduleAll_le (noLater : limiter.NoLater other) (calls : List Nat) :
    List.Forall₂ (· ≤ ·) (limiter.scheduleAll calls) (other.scheduleAll calls) := by
  -- The induction is on the calls, with both limiters going on from where the last one left them.
  induction calls generalizing limiter other with
  | nil => exact .nil
  | cons now later ih =>
    exact .cons (noLater.release_le (Nat.le_refl now)) (ih (noLater.schedule (Nat.le_refl now)))

end NoLater

/--
Release times in closed form, for calls in any order.

The release of a call is the latest of the moments for which the calls up to it ask: their own, and
an interval more for each call since. So none is released before it was made, releases are an
interval apart, and no other release times with both properties are earlier anywhere. When earlier
calls are made later, or more of them are made, no later release comes sooner.
-/
theorem released_at_latest_demand (interval : Nat) (calls : List Nat) :
    ((ofInterval interval).scheduleAll calls).length = calls.length ∧
      (∀ place release, ((ofInterval interval).scheduleAll calls)[place]? = some release →
        IsGreatest (demands interval calls place) release) ∧
      List.Forall₂ (· ≤ ·) calls ((ofInterval interval).scheduleAll calls) ∧
      ((ofInterval interval).scheduleAll calls).IsChain (Apart interval) ∧
      (∀ others, List.Forall₂ (· ≤ ·) calls others → others.IsChain (Apart interval) →
        List.Forall₂ (· ≤ ·) ((ofInterval interval).scheduleAll calls) others) ∧
      ∀ earlier later more, calls = earlier ++ later →
        List.SublistForall₂ (· ≤ ·) earlier more →
        List.Forall₂ (· ≤ ·) (((ofInterval interval).scheduleAll calls).drop earlier.length)
          (((ofInterval interval).scheduleAll (more ++ later)).drop more.length) := by
  -- Each part is a fact about the limiter that the calls in front leave behind.
  refine ⟨length_scheduleAll _ _, fun place release => isGreatest_scheduleAll,
    call_le_scheduleAll _ _, apart_scheduleAll (ofInterval interval) calls, ?_, ?_⟩
  · intro others there apart
    exact scheduleAll_le there apart fun _ _ => Nat.zero_le _
  · -- What comes later starts from the limiters that the earlier calls leave behind.
    rintro earlier later more rfl among
    rw [drop_scheduleAll, drop_scheduleAll]
    exact ((NoLater.refl _).after among).scheduleAll_le later

/-- Of calls out of order, the fourth one waits for the third, which two calls more put off. -/
theorem fourth_call_waits_for_third :
    (ofInterval 100).scheduleAll [50, 20, 400, 390] = [50, 150, 400, 500] ∧
      IsGreatest (demands 100 [50, 20, 400, 390] 3) 500 ∧
      List.Forall₂ (· ≤ ·) [400, 500] [450, 550] := by
  -- The release times are evaluated, and the theorem says why they are what they are.
  obtain ⟨_, greatest, _, _, _, put_off⟩ := released_at_latest_demand 100 [50, 20, 400, 390]
  refine ⟨rfl, greatest 3 500 rfl, ?_⟩
  exact put_off [50, 20] [400, 390] [50, 60, 250, 250] rfl
    (.cons (Nat.le_refl 50) (.cons (by decide) .nil))

end Schedule

section Streams

variable {α : Type} {limiter : Limiter} {items : List (Item α)} {asked : Nat}

/-- Items come out in their order, and none is left out or comes twice. -/
theorem values_limit (limiter : Limiter) (asked : Nat) (items : List (Item α)) :
    (limiter.limit asked items).map Passage.value = items.map Item.value := by
  induction items generalizing limiter asked with
  | nil => rfl
  | cons item items ih => exact congrArg _ (ih _ _)

/-- Items come out when a limiter releases them that is asked as they arrive. -/
theorem outs_limit (limiter : Limiter) (asked : Nat) (items : List (Item α)) :
    (limiter.limit asked items).map Passage.out =
      limiter.scheduleAll ((limiter.limit asked items).map Passage.arrived) := by
  induction items generalizing limiter asked with
  | nil => rfl
  | cons item items ih => exact congrArg _ (ih _ _)

/-- Items arrive as their stream has it, by when they are asked for, and come out behind that. -/
theorem passes_limit (limiter : Limiter) (asked : Nat) (items : List (Item α)) :
    List.Forall₂ (fun item passage => passage.arrived = item.arrival passage.asked ∧
      passage.asked ≤ passage.arrived ∧ passage.arrived ≤ passage.out)
      items (limiter.limit asked items) := by
  induction items generalizing limiter asked with
  | nil => exact .nil
  | cons item items ih => exact .cons ⟨rfl, item.asked_le_arrival asked, le_release⟩ (ih _ _)

/-- The first item is asked for at once. -/
theorem asked_head?_limit {passage : Passage α}
    (first : passage ∈ (limiter.limit asked items).head?) : passage.asked = asked := by
  -- Without items nothing is asked for.
  cases items with
  | nil => cases first
  | cons item items =>
    cases first
    rfl

/-- The next item is asked for once the consumer has rested behind the one before. -/
theorem asked_limit_succ {place : Nat} {item : Item α} {before next : Passage α}
    (there : items[place]? = some item)
    (first : (limiter.limit asked items)[place]? = some before)
    (second : (limiter.limit asked items)[place + 1]? = some next) :
    next.asked = before.out + item.pause := by
  -- The induction is on the items: behind the first one the consumer asks again when it has rested.
  induction items generalizing limiter asked place with
  | nil => cases there
  | cons own items ih =>
    cases place with
    | succ place => exact @ih (limiter.schedule (own.arrival asked)).2 _ place there first second
    | zero =>
      cases there
      cases first
      rw [limit, List.getElem?_cons_succ, ← List.head?_eq_getElem?] at second
      exact asked_head?_limit second

/-- A further item comes out once it has arrived and the interval since the one before is over. -/
theorem out_limit_succ {place : Nat} {before next : Passage α}
    (first : (limiter.limit asked items)[place]? = some before)
    (second : (limiter.limit asked items)[place + 1]? = some next) :
    next.out = max next.arrived (before.out + limiter.interval) := by
  -- Items come out as the limiter releases what arrives, so its recurrence holds for both.
  have outs := outs_limit limiter asked items
  have arrives : ((limiter.limit asked items).map Passage.arrived)[place + 1]? =
      some next.arrived := by
    rw [List.getElem?_map, second]
    rfl
  have released : (limiter.scheduleAll ((limiter.limit asked items).map Passage.arrived))[place]? =
      some before.out := by
    rw [← outs, List.getElem?_map, first]
    rfl
  have follows := getElem?_scheduleAll_succ arrives released
  rw [← outs, List.getElem?_map, second] at follows
  exact Option.some.inj follows

/-- The first item comes out as soon as it is there. -/
theorem out_head?_limit {interval : Nat} {passage : Passage α}
    (first : passage ∈ ((ofInterval interval).limit asked items).head?) :
    passage.out = passage.arrived := by
  -- A limiter that has released nothing holds nothing back.
  cases items with
  | nil => cases first
  | cons item items =>
    cases first
    exact release_eq.trans (Nat.max_zero _)

/-- An item that takes some time from when it is asked for. -/
def Item.onDemand (value : α) (takes pause : Nat) : Item α :=
  ⟨value, fun asked => asked + takes, pause, fun asked => Nat.le_add_right asked takes⟩

/--
A limited stream brings every item in its order, as early as the distance between items allows.

The items may be there from some moment on or be made as they are asked for, and the consumer may
rest behind each as long as it likes before it asks for the next one. An item comes out as soon as
it is there and the interval since the item before is over, and other moments with both properties
are nowhere earlier.
-/
theorem limited_stream_brings_all_in_time (interval start : Nat) (items : List (Item α)) :
    let passages := (ofInterval interval).limit start items
    passages.map Passage.value = items.map Item.value ∧
      List.Forall₂ (fun item passage => passage.arrived = item.arrival passage.asked ∧
        passage.asked ≤ passage.arrived ∧ passage.arrived ≤ passage.out) items passages ∧
      (passages.map Passage.out).IsChain (Apart interval) ∧
      (∀ first ∈ passages.head?, first.asked = start ∧ first.out = first.arrived) ∧
      (∀ place item before next, items[place]? = some item → passages[place]? = some before →
        passages[place + 1]? = some next → next.asked = before.out + item.pause ∧
          next.out = max next.arrived (before.out + interval)) ∧
      ∀ others, List.Forall₂ (· ≤ ·) (passages.map Passage.arrived) others →
        others.IsChain (Apart interval) →
        List.Forall₂ (· ≤ ·) (passages.map Passage.out) others := by
  -- The release times are those of the arrivals as calls, so what is known of calls holds here.
  intro passages
  have outs := outs_limit (ofInterval interval) start items
  refine ⟨values_limit _ _ _, passes_limit _ _ _, ?_, ?_, ?_, ?_⟩
  · rw [outs]
    exact apart_scheduleAll (ofInterval interval) _
  · intro first member
    exact ⟨asked_head?_limit member, out_head?_limit member⟩
  · intro place item before next there first second
    exact ⟨asked_limit_succ there first second, out_limit_succ first second⟩
  · intro others there apart
    rw [outs]
    exact scheduleAll_le there apart fun _ _ => Nat.zero_le _

/-- The second of four items is held back, a slow consumer lets the third out, the fourth waits. -/
theorem slow_consumer_is_served_in_time :
    let passages := (ofInterval 10).limit 0
      [.thereAt 'a' 0 3, .onDemand 'b' 4 25, .thereAt 'c' 12 0, .thereAt 'd' 13 0]
    passages = [⟨'a', 0, 0, 0⟩, ⟨'b', 3, 7, 10⟩, ⟨'c', 35, 35, 35⟩, ⟨'d', 35, 35, 45⟩] ∧
      (passages.map Passage.out).IsChain (Apart 10) ∧
      List.Forall₂ (· ≤ ·) (passages.map Passage.out) [0, 11, 36, 50] := by
  -- The passages are evaluated, and the theorem compares them with a slower way.
  obtain ⟨_, _, apart, _, _, least⟩ := limited_stream_brings_all_in_time 10 0
    [.thereAt 'a' 0 3, .onDemand 'b' 4 25, .thereAt 'c' 12 0, .thereAt 'd' 13 0]
  refine ⟨rfl, apart, least [0, 11, 36, 50] ?_ ?_⟩
  · exact .cons (by decide) (.cons (by decide) (.cons (by decide) (.cons (by decide) .nil)))
  · simp [Apart]

end Streams

end Limiter

end Scoreboard
