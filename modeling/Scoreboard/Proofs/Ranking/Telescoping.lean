import Mathlib.Data.List.Nodup
import Scoreboard.LiveEvent
import Scoreboard.Proofs.Table

/-! Chains of rounds: step by step and from end to end, they bring the same first bloods. -/

namespace Scoreboard

/-- A later round lists the services of an earlier one, and adds first bloods behind theirs. -/
structure Round.Succeeds (round previous : Round) : Prop where
  listed : round.serviceNames.Perm previous.serviceNames
  grows : ∀ old ∈ previous.services, ∀ service ∈ round.services, old.name = service.name →
    old.firstBlood <+: service.firstBlood

instance (round previous : Round) : Decidable (round.Succeeds previous) :=
  decidable_of_iff
    (round.serviceNames.Perm previous.serviceNames ∧
      ∀ old ∈ previous.services, ∀ service ∈ round.services, old.name = service.name →
        old.firstBlood <+: service.firstBlood)
    ⟨fun both => ⟨both.1, both.2⟩, fun succeeds => ⟨succeeds.listed, succeeds.grows⟩⟩

/-- The first bloods of the service with a name, none if a round has no such service. -/
def Round.firstBloodsOf (round : Round) (name : String) : List String :=
  match round.services.find? fun service => service.name = name with
  | some service => service.firstBlood
  | none => []

/-- The teams that events name as first bloods of a service, in their order. -/
def teamsTold (name : String) (events : List LiveEvent) : List String :=
  events.filterMap fun
    | .firstBlood service team => if service = name then some team else none
    | .final _ => none

/-- The first bloods that are told when each round of a chain is compared with the one before it. -/
def followedFirstBloods (rounds : Nat → Round) (last : Nat) : List LiveEvent :=
  (List.range last).flatMap fun place => detectFirstBloods (rounds place) (rounds (place + 1))

section Told

variable {name : String} {first second : List LiveEvent}

/-- Teams are told in the order of the events. -/
@[simp] theorem teamsTold_append (name : String) (first second : List LiveEvent) :
    teamsTold name (first ++ second) = teamsTold name first ++ teamsTold name second :=
  List.filterMap_append

/-- A first blood tells its team of its own service, and of no other. -/
theorem teamsTold_firstBlood (name service team : String) (later : List LiveEvent) :
    teamsTold name (.firstBlood service team :: later) =
      if service = name then team :: teamsTold name later else teamsTold name later := by
  -- The names are the same or not.
  by_cases same : service = name
  · rw [if_pos same]
    exact List.filterMap_cons_some (if_pos same)
  · rw [if_neg same]
    exact List.filterMap_cons_none (if_neg same)

/-- First bloods of a service tell all their teams of it. -/
@[simp] theorem teamsTold_same (name : String) (teams : List String) :
    teamsTold name (teams.map (.firstBlood name)) = teams := by
  induction teams with
  | nil => rfl
  | cons team teams ih => rw [List.map_cons, teamsTold_firstBlood, if_pos rfl, ih]

/-- First bloods of another service tell no team of this one. -/
theorem teamsTold_other {other : String} (differs : other ≠ name) (teams : List String) :
    teamsTold name (teams.map (.firstBlood other)) = [] := by
  induction teams with
  | nil => rfl
  | cons team teams ih => rw [List.map_cons, teamsTold_firstBlood, if_neg differs, ih]

/-- A service that is not listed is not told of. -/
theorem teamsTold_of_unlisted {services : List Service}
    (unlisted : name ∉ services.map Service.name) (teams : Service → List String) :
    teamsTold name (services.flatMap fun service =>
      (teams service).map (.firstBlood service.name)) = [] := by
  -- The induction is on the services, none of which has the name.
  induction services with
  | nil => rfl
  | cons service services ih =>
    obtain ⟨differs, unlisted⟩ := not_or.mp (mt List.mem_cons.mpr unlisted)
    rw [List.flatMap_cons, teamsTold_append, teamsTold_other (Ne.symm differs), ih unlisted,
      List.append_nil]

/-- Where services are told of one by one, each has just the teams that are told for it. -/
theorem teamsTold_of_listed {services : List Service} {service : Service}
    (distinct : (services.map Service.name).Nodup) (listed : service ∈ services)
    (teams : Service → List String) :
    teamsTold service.name (services.flatMap fun service =>
      (teams service).map (.firstBlood service.name)) = teams service := by
  -- The induction walks to the service, and neither in front of it nor behind it is its name told.
  induction services with
  | nil => cases listed
  | cons head services ih =>
    obtain ⟨fresh, distinct⟩ := List.nodup_cons.mp distinct
    rw [List.flatMap_cons, teamsTold_append]
    rcases List.mem_cons.mp listed with rfl | listed
    · rw [teamsTold_same, teamsTold_of_unlisted fresh, List.append_nil]
    · have differs : head.name ≠ service.name := fun same =>
        fresh (same ▸ List.mem_map_of_mem listed)
      rw [teamsTold_other differs, List.nil_append]
      exact ih distinct listed

/-- How often a first blood is told shows in the teams that are told for its service. -/
theorem count_firstBlood (name team : String) (events : List LiveEvent) :
    events.count (.firstBlood name team) = (teamsTold name events).count team := by
  -- An event counts when it is of the service, and then it is the team that is compared.
  rw [teamsTold, List.count_filterMap, List.count]
  refine List.countP_congr fun event _ => ?_
  cases event with
  | firstBlood service other => by_cases same : service = name <;> simp [same]
  | final tick => simp

/-- First bloods that are the same for each service are the same in another order. -/
theorem perm_of_teamsTold (bloods : ∀ tick, .final tick ∉ first)
    (others : ∀ tick, .final tick ∉ second)
    (same : ∀ name, teamsTold name first = teamsTold name second) : first.Perm second := by
  -- A list is another one reordered when each event stands in both equally often.
  refine List.perm_iff_count.mpr fun event => ?_
  cases event with
  | firstBlood name team => rw [count_firstBlood, count_firstBlood, same]
  | final tick => rw [List.count_eq_zero.mpr (bloods tick), List.count_eq_zero.mpr (others tick)]

end Told

section Steps

variable {round previous : Round} {service : Service} {name : String}

/-- The first bloods of a name are those of the service that is listed under it. -/
theorem Round.firstBloodsOf_of_listed (distinct : round.serviceNames.Nodup)
    (listed : service ∈ round.services) :
    round.firstBloodsOf service.name = service.firstBlood := by
  rw [firstBloodsOf, find?_of_nodup_map distinct listed]

/-- A service that is not listed has no first bloods. -/
theorem Round.firstBloodsOf_of_unlisted (unlisted : name ∉ round.serviceNames) :
    round.firstBloodsOf name = [] := by
  -- The search finds no service of the name.
  have missing : (round.services.find? fun service => service.name = name) = none :=
    List.find?_eq_none.mpr fun service listed named =>
      unlisted (List.mem_map.mpr ⟨service, listed, of_decide_eq_true named⟩)
  rw [firstBloodsOf, missing]

/-- Of a service that was listed before, as many first bloods are known as it had. -/
theorem knownFirstBloods_of_listed {old : Service} (distinct : previous.serviceNames.Nodup)
    (there : old ∈ previous.services) (named : old.name = service.name) :
    knownFirstBloods previous service = old.firstBlood.length := by
  rw [knownFirstBloods, ← named, find?_of_nodup_map distinct there]

/-- Of a service, a round tells of all first bloods behind those that are known. -/
theorem teamsTold_detectFirstBloods (distinct : round.serviceNames.Nodup)
    (listed : service ∈ round.services) :
    teamsTold service.name (detectFirstBloods previous round) =
      service.firstBlood.drop (knownFirstBloods previous service) :=
  teamsTold_of_listed distinct listed _

/-- Rounds that are compared tell of no final. -/
theorem final_not_mem_detectFirstBloods (previous round : Round) (tick : Tick) :
    .final tick ∉ detectFirstBloods previous round := by
  -- What is told was made of a service and a team, which makes it a first blood.
  intro member
  obtain ⟨service, _, told⟩ := List.mem_flatMap.mp member
  obtain ⟨team, _, other⟩ := List.mem_map.mp told
  cases other

namespace Round.Succeeds

/-- A round that succeeds a successor succeeds the round before too. -/
theorem trans {middle : Round} (late : round.Succeeds middle) (early : middle.Succeeds previous) :
    round.Succeeds previous where
  listed := late.listed.trans early.listed
  grows old there service listed same := by
    -- The service was listed in between, too.
    have between : service.name ∈ middle.serviceNames :=
      late.listed.subset (List.mem_map_of_mem listed)
    obtain ⟨other, passed, named⟩ := List.mem_map.mp between
    exact (early.grows old there other passed (same.trans named.symm)).trans
      (late.grows other passed service listed named)

/-- A round that lists each service once succeeds itself. -/
theorem refl (distinct : round.serviceNames.Nodup) : round.Succeeds round where
  listed := .refl _
  grows _ there _ listed same :=
    List.inj_on_of_nodup_map distinct there listed same ▸ List.prefix_rfl

/-- A round that succeeds one with distinct services has distinct services. -/
theorem nodup_serviceNames (succeeds : round.Succeeds previous)
    (distinct : previous.serviceNames.Nodup) : round.serviceNames.Nodup :=
  succeeds.listed.nodup_iff.mpr distinct

/-- The first bloods of a service are those that it had, and behind them those that are told. -/
theorem firstBloodsOf_eq (succeeds : round.Succeeds previous)
    (distinct : previous.serviceNames.Nodup) (name : String) :
    round.firstBloodsOf name =
      previous.firstBloodsOf name ++ teamsTold name (detectFirstBloods previous round) := by
  -- Both rounds list the service, or neither has a first blood of it.
  by_cases there : name ∈ round.serviceNames
  · obtain ⟨service, listed, rfl⟩ := List.mem_map.mp there
    obtain ⟨old, before, named⟩ := List.mem_map.mp (succeeds.listed.subset there)
    have apart := succeeds.nodup_serviceNames distinct
    have had : previous.firstBloodsOf service.name = old.firstBlood :=
      named ▸ firstBloodsOf_of_listed distinct before
    rw [teamsTold_detectFirstBloods apart listed, knownFirstBloods_of_listed distinct before named,
      firstBloodsOf_of_listed apart listed, had]
    exact (List.prefix_iff_eq_append.mp (succeeds.grows old before service listed named)).symm
  · have before : name ∉ previous.serviceNames := mt (succeeds.listed.symm.subset ·) there
    rw [firstBloodsOf_of_unlisted there, firstBloodsOf_of_unlisted before, detectFirstBloods,
      teamsTold_of_unlisted there, List.nil_append]

/-- The first bloods detected are those appended, service by service in the order of the round. -/
theorem detects (succeeds : round.Succeeds previous) (distinct : previous.serviceNames.Nodup) :
    ∃ added : String → List String,
      (∀ old ∈ previous.services, ∀ service ∈ round.services, old.name = service.name →
        service.firstBlood = old.firstBlood ++ added service.name) ∧
      detectFirstBloods previous round = round.services.flatMap fun service =>
        (added service.name).map (.firstBlood service.name) := by
  -- What was added to a service are the teams that are told of under its name.
  have apart := succeeds.nodup_serviceNames distinct
  refine ⟨fun name => teamsTold name (detectFirstBloods previous round), ?_, ?_⟩
  · intro old there service listed named
    rw [← firstBloodsOf_of_listed apart listed, succeeds.firstBloodsOf_eq distinct, ← named,
      firstBloodsOf_of_listed distinct there]
  · refine List.flatMap_congr fun service listed => ?_
    exact congrArg (List.map _) (teamsTold_detectFirstBloods apart listed).symm

end Round.Succeeds

end Steps

section Chains

variable {rounds : Nat → Round} {last : Nat}

/-- Another round tells of what it adds to the one before. -/
theorem followedFirstBloods_succ (rounds : Nat → Round) (last : Nat) :
    followedFirstBloods rounds (last + 1) =
      followedFirstBloods rounds last ++ detectFirstBloods (rounds last) (rounds (last + 1)) := by
  simp [followedFirstBloods, List.range_succ]

/-- From its first round to its last one, a chain is a single step of the same kind. -/
theorem succeeds_first (distinct : (rounds 0).serviceNames.Nodup)
    (chain : ∀ place < last, (rounds (place + 1)).Succeeds (rounds place)) :
    (rounds last).Succeeds (rounds 0) := by
  -- The induction is on the length of the chain, which is extended at its end.
  induction last with
  | zero => exact .refl distinct
  | succ last ih =>
    have early := ih fun place inside => chain place (Nat.lt_succ_of_lt inside)
    exact (chain last (Nat.lt_succ_self last)).trans early

/-- A service ends with the first bloods it began with, and behind them all that were followed. -/
theorem firstBloodsOf_last (distinct : (rounds 0).serviceNames.Nodup)
    (chain : ∀ place < last, (rounds (place + 1)).Succeeds (rounds place)) (name : String) :
    (rounds last).firstBloodsOf name =
      (rounds 0).firstBloodsOf name ++ teamsTold name (followedFirstBloods rounds last) := by
  -- Each step tells of what it appends, behind everything that was told before it.
  induction last with
  | zero => exact (List.append_nil _).symm
  | succ last ih =>
    have earlier := fun place inside => chain place (Nat.lt_succ_of_lt inside)
    have apart := (succeeds_first distinct earlier).nodup_serviceNames distinct
    rw [(chain last (Nat.lt_succ_self last)).firstBloodsOf_eq apart, ih earlier,
      followedFirstBloods_succ, teamsTold_append, List.append_assoc]

/-- Rounds that are followed tell of no final. -/
theorem final_not_mem_followedFirstBloods (rounds : Nat → Round) (last : Nat) (tick : Tick) :
    .final tick ∉ followedFirstBloods rounds last := by
  -- Each event was told between two rounds in succession.
  intro member
  obtain ⟨place, _, told⟩ := List.mem_flatMap.mp member
  exact final_not_mem_detectFirstBloods _ _ tick told

/--
First bloods add up along a chain of rounds with the same services, in whatever order they stand.

Each step tells of just the first bloods that it appends, service by service in the order of the
later round. All steps together tell of what the last round has over the first one, as often and,
for every service, in the same order; only the services may take turns in another way.
-/
theorem followed_first_bloods_telescope (distinct : (rounds 0).serviceNames.Nodup)
    (chain : ∀ place < last, (rounds (place + 1)).Succeeds (rounds place)) :
    (∀ place < last, ∃ added : String → List String,
      (∀ old ∈ (rounds place).services, ∀ service ∈ (rounds (place + 1)).services,
        old.name = service.name → service.firstBlood = old.firstBlood ++ added service.name) ∧
      detectFirstBloods (rounds place) (rounds (place + 1)) =
        (rounds (place + 1)).services.flatMap fun service =>
          (added service.name).map (.firstBlood service.name)) ∧
    (followedFirstBloods rounds last).Perm (detectFirstBloods (rounds 0) (rounds last)) ∧
    ∀ name, teamsTold name (followedFirstBloods rounds last) =
      teamsTold name (detectFirstBloods (rounds 0) (rounds last)) := by
  have ends := succeeds_first distinct chain
  -- Both lists are what the last round has of a service behind what the first round has of it.
  have same : ∀ name, teamsTold name (followedFirstBloods rounds last) =
      teamsTold name (detectFirstBloods (rounds 0) (rounds last)) := by
    intro name
    have followed := firstBloodsOf_last distinct chain name
    rw [ends.firstBloodsOf_eq distinct name] at followed
    exact (List.append_cancel_left followed).symm
  refine ⟨fun place inside => ?_, ?_, same⟩
  · have earlier := fun before sooner => chain before (Nat.lt_trans sooner inside)
    have apart := (succeeds_first distinct earlier).nodup_serviceNames distinct
    exact (chain place inside).detects apart
  · exact perm_of_teamsTold (final_not_mem_followedFirstBloods rounds last)
      (final_not_mem_detectFirstBloods _ _) same

end Chains

/-- A chain of three rounds, in which two services change places and get their first bloods. -/
def swappedServices (place : Nat) : Round :=
  let service (name : String) (firstBlood : List String) : Service := ⟨name, 0, 0, firstBlood, 2, 0⟩
  match place with
  | 0 => ⟨5, [service "web" ["A"], service "pwn" []], []⟩
  | 1 => ⟨6, [service "pwn" ["B"], service "web" ["A"]], []⟩
  | _ => ⟨7, [service "web" ["A", "C"], service "pwn" ["B", "A", "B"]], []⟩

/-- Followed round by round, the services take turns in another way than from end to end. -/
theorem swapped_services_telescope :
    (swappedServices 0).serviceNames.Nodup ∧
    (∀ place < 2, (swappedServices (place + 1)).Succeeds (swappedServices place)) ∧
    followedFirstBloods swappedServices 2 = [.firstBlood "pwn" "B", .firstBlood "web" "C",
      .firstBlood "pwn" "A", .firstBlood "pwn" "B"] ∧
    detectFirstBloods (swappedServices 0) (swappedServices 2) = [.firstBlood "web" "C",
      .firstBlood "pwn" "B", .firstBlood "pwn" "A", .firstBlood "pwn" "B"] ∧
    (followedFirstBloods swappedServices 2).Perm
      (detectFirstBloods (swappedServices 0) (swappedServices 2)) ∧
    teamsTold "pwn" (followedFirstBloods swappedServices 2) = ["B", "A", "B"] := by
  -- Both ways are evaluated, and the theorem says how they agree.
  have distinct : (swappedServices 0).serviceNames.Nodup := by decide
  have chain : ∀ place < 2, (swappedServices (place + 1)).Succeeds (swappedServices place) := by
    decide
  obtain ⟨_, reordered, ordered⟩ := followed_first_bloods_telescope distinct chain
  refine ⟨distinct, chain, by decide, by decide, reordered, (ordered "pwn").trans ?_⟩
  decide

end Scoreboard
