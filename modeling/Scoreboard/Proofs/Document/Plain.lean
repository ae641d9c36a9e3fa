import Scoreboard.Document.History
import Scoreboard.Document.Team
import Scoreboard.Proofs.Json.Values
import Scoreboard.Proofs.Json.Yields

/-! Documents without doubles come back from their texts as they were. -/

namespace Scoreboard

section Members

variable {α : Type} {name : String} {codec : Codec α} {depth : Nat} {value default : α}

/-- A required member comes back when its value does. -/
theorem Field.required_returns (returns : codec.Returns depth value) :
    (Field.required name codec).Returns depth value :=
  ⟨nofun, fun _ => returns⟩

/-- A member with a default comes back when its value does. -/
theorem Field.defaulted_returns (returns : codec.Returns depth value) :
    (Field.defaulted name codec default).Returns depth value :=
  ⟨nofun, fun _ => returns⟩

end Members

section State

/-- Every phase comes back from its code. -/
theorem GamePhase.ofCode?_code (phase : GamePhase) : ofCode? phase.code = some phase := by
  cases phase <;> rfl

/-- A phase comes back from its text. -/
theorem Codec.phase_returns (phase : GamePhase) : Codec.phase.Returns 0 phase where
  -- A phase is written as the number of its code, which is read within a byte.
  starts := by
    obtain ⟨c, text, digits, opens⟩ := intDigits_eq_cons phase.code
    exact ⟨c, text, digits, opens_of_number opens⟩
  reads room rest _ follows := by
    have small : phase.code ≤ 255 := by cases phase <;> decide
    have read : readWithin 0 255 (intDigits phase.code ++ rest) = .ok ((phase.code : Int), rest) :=
      readWithin_intDigits follows.stops (by omega) (by omega) (by decide) (by decide)
    refine bind_eq_ok_iff.mpr ⟨_, read, ?_⟩
    simp only [Int.toNat_natCast, GamePhase.ofCode?_code]

/-- The members of a state document come back. -/
theorem CurrentState.members_return (current : CurrentState) :
    CurrentState.record.fields.Returns 1 (CurrentState.record.parts current) := by
  have number : ∀ name value, (Field.required name .int64).Returns 1 value := fun name value =>
    Field.required_returns ((Codec.int64_returns value).deeper (by decide))
  have phase : (Field.required "state" .phase).Returns 1 current.state :=
    Field.required_returns ((Codec.phase_returns current.state).deeper (by decide))
  -- Banned teams that are not known are left out, and left out they are not known.
  have banned : Field.Returns ⟨"banned_teams", Codec.optional (.list .int64), some none, some none,
      Option.isNone⟩ 1 current.bannedTeams := by
    cases current.bannedTeams with
    | none => exact ⟨fun _ => rfl, nofun⟩
    | some teams =>
      have returns : (Codec.list .int64).Returns 1 teams :=
        Codec.list_returns fun team _ => Codec.int64_returns team
      exact ⟨nofun, fun _ => Codec.optional_returns_some returns (by nofun)⟩
  exact ⟨number _ _, phase, number _ _, number _ _, banned, trivial⟩

/-- A state document comes back from its text. -/
theorem CurrentState.returns (current : CurrentState) : Codec.currentState.Returns 2 current :=
  Record.returns current.members_return (by decide) rfl

end State

section Teams

/-- A string of any characters is read back as a value. -/
theorem Json.read_quote (room : Nat) (text : String) (rest : List Char) :
    Json.read room (quote text.toList ++ rest) = .ok (.string text, rest) := by
  -- Behind the quote the reader of values reads a string.
  unfold Json.read
  show (readString (text.toList.flatMap escapeChar ++ ['"'] ++ rest)).map _ = _
  rw [readString_toList]
  rfl

/-- A logo comes back unless it is an empty path, which means that there is none. -/
theorem Codec.logo_returns {logo : Option String} (named : logo ≠ some "") :
    Codec.logo.Returns 0 logo := by
  -- A logo is read as a value of any shape first, and then taken for what it may be.
  cases logo with
  | none =>
    refine ⟨⟨'n', _, rfl, by decide⟩, fun room rest _ _ => ?_⟩
    exact bind_eq_ok_iff.mpr ⟨_, Json.read_null rest, rfl⟩
  | some path =>
    have full : path.isEmpty = false := by
      rw [Bool.eq_false_iff]
      exact fun empty => named (congrArg some (String.isEmpty_iff.mp empty))
    have shape : logoOf (.string path) = .ok (some path) := by
      simp only [logoOf, full, Bool.false_eq_true, if_false]
    refine ⟨⟨'"', _, rfl, by decide⟩, fun room rest _ _ => ?_⟩
    exact bind_eq_ok_iff.mpr
      ⟨_, Json.read_quote room path rest, bind_eq_ok_iff.mpr ⟨_, shape, rfl⟩⟩

/-- No logo that is read is an empty path. -/
theorem Codec.logo_ne_empty {logo : Option String} (yields : Codec.logo.Yields logo) :
    logo ≠ some "" := by
  obtain ⟨_, _, _, read⟩ := yields
  obtain ⟨⟨value, behind⟩, _, read⟩ := bind_eq_ok_iff.mp read
  obtain ⟨chosen, shape, same⟩ := bind_eq_ok_iff.mp read
  cases same
  -- Only a text makes a logo, and an empty one does not.
  unfold logoOf at shape
  split at shape
  · cases shape
    nofun
  · cases shape
    nofun
  · rename_i path
    rintro rfl
    split at shape
    · cases shape
    · rename_i full
      cases shape
      exact full rfl
  · cases shape

/-- The members of a team whose logo is written in one way or another. -/
def Team.recordWith (logo : Codec (Option String)) :
    Record [Int64, String, String, String, String, Option String] Team where
  fields :=
    .cons (.defaulted "id" .int64 0) <|
    .cons (.required "name" .string) <|
    .cons (.defaulted "vulnbox" .string "") <|
    .cons (.defaulted "aff" .string "") <|
    .cons (.defaulted "web" .string "") <|
    .cons (.defaulted "logo" logo none) .nil
  make := Team.record.make
  parts := Team.record.parts

/-- The record of a team has the logo in its own codec. -/
theorem Team.recordWith_logo : Team.recordWith .logo = Team.record :=
  rfl

/-- The members of a team come back when its logo does. -/
theorem Team.members_return {codec : Codec (Option String)} {team : Team}
    (logo : codec.Returns 0 team.logo) :
    (Team.recordWith codec).fields.Returns 1 ((Team.recordWith codec).parts team) := by
  -- All members but the name have a default, which does not matter to what is written.
  have text : ∀ name value, (Field.defaulted name .string "").Returns 1 value := fun name value =>
    Field.defaulted_returns ((Codec.string_returns value).deeper (by decide))
  have id : (Field.defaulted "id" .int64 0).Returns 1 team.id :=
    Field.defaulted_returns ((Codec.int64_returns team.id).deeper (by decide))
  have name : (Field.required "name" .string).Returns 1 team.name :=
    Field.required_returns ((Codec.string_returns team.name).deeper (by decide))
  have logo : (Field.defaulted "logo" codec none).Returns 1 team.logo :=
    Field.defaulted_returns (logo.deeper (by decide))
  exact ⟨id, name, text _ _, text _ _, text _ _, logo, trivial⟩

/-- A team comes back from its text, unless its logo is an empty path. -/
theorem Team.returns {team : Team} (named : team.logo ≠ some "") : Codec.team.Returns 2 team := by
  have members := members_return (Codec.logo_returns named)
  rw [recordWith_logo] at members
  exact Record.returns members (by decide) rfl

/-- No team that is read has an empty path for its logo. -/
theorem Team.logo_ne_empty {team : Team} (yields : Codec.team.Yields team) :
    team.logo ≠ some "" := by
  -- A logo is read, or it is missing and so none.
  obtain ⟨⟨id, name, vulnbox, affiliation, web, logo, _⟩, ⟨_, _, _, _, _, own, _⟩, rfl⟩ :=
    Record.yields yields
  rcases own.defaulted with read | rfl
  · exact Codec.logo_ne_empty read
  · nofun

end Teams

section Services

/-- The members of a service come back. -/
theorem Service.members_return (service : Service) :
    Service.record.fields.Returns 1 (Service.record.parts service) := by
  -- All members but the name have a default, which does not matter to what is written.
  have count : ∀ name value, (Field.defaulted name .uint32 0).Returns 1 value := fun name value =>
    Field.defaulted_returns ((Codec.uint32_returns value).deeper (by decide))
  have name : (Field.required "name" .string).Returns 1 service.name :=
    Field.required_returns ((Codec.string_returns service.name).deeper (by decide))
  have teams : (Field.defaulted "first_blood" (.list .string) []).Returns 1 service.firstBlood :=
    Field.defaulted_returns (Codec.list_returns fun team _ => Codec.string_returns team)
  exact ⟨name, count _ _, count _ _, teams, count _ _, count _ _, trivial⟩

/-- A service comes back from its text. -/
theorem Service.returns (service : Service) : Codec.service.Returns 2 service :=
  Record.returns service.members_return (by decide) rfl

/-- Services come back from the text of their list. -/
theorem Codec.services_returns (services : List Service) :
    (Codec.list .service).Returns 3 services :=
  Codec.list_returns fun service _ => service.returns

/-- The figures of a service come back. -/
theorem ServiceStat.members_return (stat : ServiceStat) :
    ServiceStat.record.fields.Returns 0 (ServiceStat.record.parts stat) := by
  have count : ∀ name value, (Field.required name .uint32).Returns 0 value := fun name value =>
    Field.required_returns (Codec.uint32_returns value)
  exact ⟨count _ _, count _ _, trivial⟩

/-- The figures of a service come back from their text. -/
theorem ServiceStat.returns (stat : ServiceStat) : ServiceStat.record.codec.Returns 1 stat :=
  Record.returns stat.members_return (by decide) rfl

/-- The members of a document of figures come back. -/
theorem ServiceStats.members_return (stats : ServiceStats) :
    ServiceStats.record.fields.Returns 3 (ServiceStats.record.parts stats) := by
  -- The series are lists inside a list, and come back figure by figure.
  have services : (Field.defaulted "services" (.list .service) []).Returns 3 stats.services :=
    Field.defaulted_returns (Codec.services_returns stats.services)
  have series : (Field.required "stats" .statSeries).Returns 3 stats.stats :=
    Field.required_returns (Codec.list_returns fun row _ =>
      Codec.list_returns fun stat _ => stat.returns)
  exact ⟨services, series, trivial⟩

/-- A document of figures comes back from its text. -/
theorem ServiceStats.returns (stats : ServiceStats) : Codec.serviceStats.Returns 4 stats :=
  Record.returns stats.members_return (by decide) rfl

end Services

section Whole

/-- A value comes back from the text it is written as. -/
def Codec.Restores {α : Type} (codec : Codec α) (value : α) : Prop :=
  codec.ofText (codec.toText value) = .ok value

instance decidableEqResult {ε α : Type} [DecidableEq ε] [DecidableEq α] :
    DecidableEq (Except ε α)
  | .ok first, .ok second => decidable_of_iff (first = second) (by simp)
  | .error first, .error second => decidable_of_iff (first = second) (by simp)
  | .ok _, .error _ => isFalse nofun
  | .error _, .ok _ => isFalse nofun

instance {α : Type} [DecidableEq α] (codec : Codec α) (value : α) :
    Decidable (codec.Restores value) :=
  inferInstanceAs (Decidable (_ = _))

/-- Whatever text a value has been read from, it comes back from the text it is written as. -/
def Codec.RestoresRead {α : Type} (codec : Codec α) : Prop :=
  ∀ text value, codec.ofText text = .ok value → codec.Restores value

/-- Documents without doubles come back as they were, and so does every one that is read. -/
theorem plain_documents_return :
    (∀ current, Codec.currentState.Restores current) ∧
      (∀ team : Team, team.logo ≠ some "" → Codec.team.Restores team) ∧
      (∀ service, Codec.service.Restores service) ∧
      (∀ stats, Codec.serviceStats.Restores stats) ∧
      Codec.currentState.RestoresRead ∧ Codec.team.RestoresRead ∧
      Codec.service.RestoresRead ∧ Codec.serviceStats.RestoresRead := by
  have current : ∀ current, Codec.currentState.Restores current :=
    fun current => current.returns.ofText (by decide)
  have team : ∀ team : Team, team.logo ≠ some "" → Codec.team.Restores team :=
    fun team named => (Team.returns named).ofText (by decide)
  have service : ∀ service, Codec.service.Restores service :=
    fun service => service.returns.ofText (by decide)
  have stats : ∀ stats, Codec.serviceStats.Restores stats :=
    fun stats => stats.returns.ofText (by decide)
  -- A logo that is read is never an empty path, so all teams that are read come back.
  exact ⟨current, team, service, stats, fun _ value _ => current value,
    fun _ value read => team value (Team.logo_ne_empty (Codec.yields_of_ofText read)),
    fun _ value _ => service value, fun _ value _ => stats value⟩

/-- A team comes back with its logo, and one whose logo is an empty path comes back without. -/
theorem team_returns_without_empty_logo :
    Codec.team.Restores ⟨7, "Zoë \"\x07", "10.0.0.7", "", "", some "7.png"⟩ ∧
      Codec.team.ofText "\x7b\"name\": \"Zo\\u00eb \\\"\\u0007\", \"logo\": \"\"\x7d" =
        .ok ⟨0, "Zoë \"\x07", "", "", "", none⟩ ∧
      Codec.team.Restores ⟨0, "Zoë \"\x07", "", "", "", none⟩ := by
  -- The name has an escape, and the second text has a logo that is an empty path.
  obtain ⟨_, restores, _, _, _, restoresRead, _⟩ := plain_documents_return
  have read : Codec.team.ofText "\x7b\"name\": \"Zo\\u00eb \\\"\\u0007\", \"logo\": \"\"\x7d" =
      .ok ⟨0, "Zoë \"\x07", "", "", "", none⟩ := by decide +kernel
  exact ⟨restores _ (by decide), read, restoresRead _ _ read⟩

end Whole

end Scoreboard
