import Scoreboard.Proofs.Document.Plain
import Scoreboard.Proofs.Document.TeamDirectory
import Scoreboard.Proofs.Json.CutOff

/-! Documents that are cut off are never taken for smaller ones. -/

namespace Scoreboard

section State

variable {Kind : DecodeError → Prop}

/-- A phase that is cut off is refused as its kind of text is. -/
theorem Codec.phase_cuts (cutOff : Kind .truncated) (phase : GamePhase) :
    Codec.phase.Cuts (RunsOut Kind) 0 phase := by
  intro room text lost rest _ follows whole
  -- All phases have a single digit, so a cut leaves all of it or nothing.
  obtain ⟨digit, single⟩ : ∃ digit, Codec.phase.write phase = [digit] := by
    cases phase <;> exact ⟨_, rfl⟩
  rw [single] at whole
  cases text with
  | nil => exact .inside (.inl (.error cutOff))
  | cons c text =>
    obtain ⟨rfl, behind⟩ := List.cons.inj whole
    have behind : text ++ lost = rest := behind
    have left : Follows text := (behind ▸ follows).of_append
    have read := (Codec.phase_returns phase).reads room text (Nat.zero_le room) left
    rw [single] at read
    exact read ▸ .behind behind

/-- A state document that is cut off is refused. -/
theorem CurrentState.cuts (cutOff : Kind .truncated) (current : CurrentState) :
    Codec.currentState.Cuts (Refused Kind) 2 current := by
  have number : ∀ value, Codec.int64.Cuts (RunsOut Kind) 1 value :=
    fun value => (Codec.int64_cuts cutOff value).deeper (by decide)
  have phase := (Codec.phase_cuts cutOff current.state).deeper (Nat.zero_le 1)
  -- Banned teams that are not known are left out, and there is no text of theirs to cut.
  have banned : current.bannedTeams.isNone = false →
      (Codec.optional (.list .int64)).Cuts (RunsOut Kind) 1 current.bannedTeams := by
    cases current.bannedTeams with
    | none => nofun
    | some teams =>
      intro _
      have own := fun team (_ : team ∈ teams) => Codec.int64_returns team
      have cuts := Codec.list_cuts cutOff own fun team _ => Codec.int64_cuts cutOff team
      exact Codec.optional_cuts_some cutOff (Codec.list_returns own) cuts.loosen (by nofun)
  exact Record.cuts cutOff ⟨fun _ => number _, fun _ => phase, fun _ => number _, fun _ => number _,
    banned, trivial⟩ current.members_return (by decide) rfl

end State

section Services

variable {Kind : DecodeError → Prop}

/-- A service that is cut off is refused. -/
theorem Service.cuts (cutOff : Kind .truncated) (service : Service) :
    Codec.service.Cuts (Refused Kind) 2 service := by
  -- Each of its members is cut as the codec of that member is, at the depth of the record.
  have name := (Codec.string_cuts cutOff service.name).loosen.deeper (Nat.zero_le 1)
  have count : ∀ value, Codec.uint32.Cuts (RunsOut Kind) 1 value :=
    fun value => (Codec.uint32_cuts cutOff value).deeper (by decide)
  have teams := Codec.list_cuts cutOff
    (fun team (_ : team ∈ service.firstBlood) => Codec.string_returns team)
    fun team _ => (Codec.string_cuts cutOff team).loosen
  exact Record.cuts cutOff ⟨fun _ => name, fun _ => count _, fun _ => count _, fun _ => teams.loosen,
    fun _ => count _, fun _ => count _, trivial⟩ service.members_return (by decide) rfl

/-- The figures of a service that are cut off are refused. -/
theorem ServiceStat.cuts (cutOff : Kind .truncated) (stat : ServiceStat) :
    ServiceStat.record.codec.Cuts (Refused Kind) 1 stat := by
  have count := Codec.uint32_cuts cutOff
  exact Record.cuts cutOff ⟨fun _ => count _, fun _ => count _, trivial⟩ stat.members_return
    (by decide) rfl

/-- A document of figures that is cut off is refused. -/
theorem ServiceStats.cuts (cutOff : Kind .truncated) (stats : ServiceStats) :
    Codec.serviceStats.Cuts (Refused Kind) 4 stats := by
  have services := Codec.list_cuts cutOff
    (fun service (_ : service ∈ stats.services) => service.returns)
    fun service _ => (service.cuts cutOff).loosen
  -- The series are lists inside a list, and both are cut like any list.
  have returns : ∀ row ∈ stats.stats, (Codec.list ServiceStat.record.codec).Returns 2 row :=
    fun row _ => Codec.list_returns fun stat _ => stat.returns
  have rows : ∀ row ∈ stats.stats,
      (Codec.list ServiceStat.record.codec).Cuts (RunsOut Kind) 2 row := fun row _ =>
    (Codec.list_cuts cutOff (fun stat _ => stat.returns)
      fun stat _ => (stat.cuts cutOff).loosen).loosen
  have series := Codec.list_cuts cutOff returns rows
  exact Record.cuts cutOff ⟨fun _ => services.loosen, fun _ => series.loosen, trivial⟩
    stats.members_return (by decide) rfl

end Services

section Teams

variable {Kind : DecodeError → Prop}

/-- A logo whose text starts like `null` has to be that word. -/
theorem readLogo_null (room : Nat) (text : List Char) : Codec.logo.read room ('n' :: text) =
    (readWord "ull".toList text).map fun rest => (none, rest) := by
  -- What is read as any value is the word, or the problem with it.
  have read : Json.read room ('n' :: text) =
      (readWord "ull".toList text).map fun rest => (.null, rest) := by
    unfold Json.read
    rfl
  simp only [Codec.logo, read]
  cases readWord "ull".toList text <;> rfl

/-- A team without a logo is written as `null`, and a part of that word is refused. -/
theorem Codec.logo_cuts_null (cutOff : Kind .truncated) :
    Codec.logo.CutsText (Refused Kind) 0 "null".toList none := by
  -- Either nothing of the word is left, or its first letter with some more.
  intro room text lost rest _ _ whole
  cases text with
  | nil => cases room <;> exact .inside (.error cutOff)
  | cons c text =>
    have parts : c :: (text ++ lost) = 'n' :: ("ull".toList ++ rest) := whole
    obtain ⟨rfl, word⟩ := List.cons.inj parts
    rw [readLogo_null]
    exact readWord_cut cutOff none (word ▸ rfl)

/-- A path that is cut off is refused, and a whole one is the logo unless it is empty. -/
theorem Codec.logo_cuts_path (cutOff : Kind .truncated) (path : String) :
    Codec.logo.CutsText (Refused Kind) 0 (quote path.toList)
      (if path.isEmpty then none else some path) := by
  -- Either nothing of the path is left, or the quote that opens it.
  intro room text lost rest _ _ whole
  cases text with
  | nil => cases room <;> exact .inside (.error cutOff)
  | cons c text =>
    obtain ⟨rfl, body⟩ := List.cons.inj whole
    have body : text ++ lost = path.toList.flatMap escapeChar ++ ['"'] ++ rest := body
    rw [readLogo_string]
    exact (readString_cut cutOff (body ▸ readString_toList path rest)).map_refused
      fun path => if path.isEmpty then none else some path

/-- A logo that is cut off is refused. -/
theorem Codec.logo_cuts (cutOff : Kind .truncated) {logo : Option String} (named : logo ≠ some "") :
    Codec.logo.Cuts (Refused Kind) 0 logo := by
  -- The two ways to write a logo are cut in their own ways.
  cases logo with
  | none => exact logo_cuts_null cutOff
  | some path =>
    have full : ¬ path.isEmpty = true :=
      fun empty => named (congrArg some (String.isEmpty_iff.mp empty))
    have cuts := logo_cuts_path cutOff path
    rw [if_neg full] at cuts
    exact cuts

/-- Logos that are written as a path even where there is none, which the empty path stands for. -/
def Codec.pathOfLogo : Codec (Option String) where
  read := Codec.logo.read
  write logo := quote (logo.getD "").toList

/-- No logo, written as an empty path, comes back. -/
theorem Codec.pathOfLogo_returns_none : Codec.pathOfLogo.Returns 0 none where
  starts := ⟨'"', _, rfl, by decide⟩
  reads room rest _ _ := by
    -- The empty path is read as a string, and means no logo.
    show Codec.logo.read room ('"' :: (_ ++ rest)) = _
    rw [readLogo_string, readString_toList]
    rfl

/-- A team that is cut off is refused, in whichever way its logo is written. -/
theorem Team.cuts_with {codec : Codec (Option String)} {team : Team} (cutOff : Kind .truncated)
    (returns : codec.Returns 0 team.logo) (cuts : codec.Cuts (Refused Kind) 0 team.logo) :
    (Team.recordWith codec).codec.Cuts (Refused Kind) 2 team := by
  -- The members are cut at the depth of the record, and the logo as its own codec says.
  have text : ∀ value, Codec.string.Cuts (RunsOut Kind) 1 value :=
    fun value => (Codec.string_cuts cutOff value).loosen.deeper (by decide)
  have id := (Codec.int64_cuts cutOff team.id).deeper (Nat.zero_le 1)
  have logo := cuts.loosen.deeper (Nat.zero_le 1)
  exact Record.cuts cutOff ⟨fun _ => id, fun _ => text _, fun _ => text _, fun _ => text _,
    fun _ => text _, fun _ => logo, trivial⟩ (Team.members_return returns) names_nodup rfl

/-- A team that is read may have lost its logo, if that was an empty path. -/
theorem Team.exists_cuts (cutOff : Kind .truncated) (team : Team) :
    ∃ seen, Codec.team.CutsText (Refused Kind) 2 (Codec.team.write team) seen := by
  -- An empty path is the one logo that is not read as it was written.
  by_cases named : team.logo = some ""
  · -- The empty path is read like the one of a team without a logo that is written as a path.
    have cuts : Codec.pathOfLogo.Cuts (Refused Kind) 0 none := Codec.logo_cuts_path cutOff ""
    have read : (Team.recordWith .pathOfLogo).codec.Cuts (Refused Kind) 2
        { team with logo := none } := Team.cuts_with cutOff Codec.pathOfLogo_returns_none cuts
    have same : (Team.recordWith .pathOfLogo).codec.write { team with logo := none } =
        Codec.team.write team := by
      obtain ⟨id, name, vulnbox, affiliation, web, logo⟩ := team
      cases named
      rfl
    rw [Codec.Cuts, same] at read
    exact ⟨_, read⟩
  · exact ⟨team, Team.cuts_with cutOff (Codec.logo_returns named) (Codec.logo_cuts cutOff named)⟩

/-- A key that is cut off is no key, even where its digits spell a number. -/
theorem readTeamKey_cut (cutOff : Kind .truncated) (broken : Kind .malformed) {id : TeamId}
    {cut lost rest : List Char} (whole : cut ++ lost = intDigits id.toInt ++ '"' :: rest) :
    ReadsCut (Refused Kind) id rest lost (readTeamKey cut) := by
  cases cut with
  | nil => exact .inside (.error broken)
  | cons c cut =>
    obtain ⟨first, digits, written, opens⟩ := intDigits_eq_cons id.toInt
    have same : c = first := by
      rw [written] at whole
      exact (List.cons.inj whole).1
    subst same
    have digits := @readInt64_cut _ _ _ _ cutOff id 0 (stops_quote rest) whole
    simp only [readTeamKey, if_pos opens]
    refine digits.bind (fun out => out.bind fun _ => .error broken) fun left behind => ?_
    -- A quote has to stand right behind the digits.
    cases left with
    | nil => exact .inside (.error broken)
    | cons d left =>
      obtain ⟨rfl, same⟩ := List.cons.inj behind
      exact .behind same

/-- The text of a team in the directory, behind the quote that opens its number. -/
def teamText (entry : TeamId × Team) : List Char :=
  memberText (String.ofList (intDigits entry.1.toInt)) (Codec.team.write entry.2)

/-- The teams of a directory are cut off one by one. -/
theorem cutsAlong_teams (cutOff : Kind .truncated) (broken : Kind .malformed)
    (entries : List (TeamId × Team)) : ∀ teams : TeamsDocument, ∃ later, ∀ room, 2 ≤ room →
      CutsAlong Kind (readTeamMember room) teams (entries.map teamText) later := by
  -- Each team is put under its number before the ones behind it are.
  induction entries with
  | nil => exact fun teams => ⟨teams, fun _ _ => .nothing teams⟩
  | cons entry entries ih =>
    intro teams
    obtain ⟨id, team⟩ := entry
    obtain ⟨seen, cuts⟩ := team.exists_cuts cutOff
    obtain ⟨later, along⟩ := ih (teams.insert id seen)
    refine ⟨later, fun room enough => .member (fun {cut lost rest} follows whole => ?_)
      (along room enough)⟩
    have key : cut ++ lost = intDigits id.toInt ++ '"' :: ':' :: (Codec.team.write team ++ rest) := by
      simpa [teamText, memberText, flatMap_escapeChar (needsNoEscape_intDigits id.toInt)] using whole
    refine (readTeamKey_cut cutOff broken key).bind (fun refused => refused.bind.runsOut) ?_
    intro left behind
    -- Behind the key come a colon and the team.
    cases left with
    | nil => exact .inside (.inl (.error cutOff))
    | cons c left =>
      obtain ⟨rfl, value⟩ := List.cons.inj behind
      exact (cuts enough follows value).loosen.wrap fun team => teams.insert id team

/-- A directory that is cut off is refused, with whatever teams stand in it. -/
theorem TeamsDocument.exists_cuts (cutOff : Kind .truncated) (broken : Kind .malformed)
    (teams : TeamsDocument) :
    ∃ seen, Codec.teams.CutsText (Refused Kind) 3 (Codec.teams.write teams) seen := by
  -- Its teams stand behind the brace as members, which are cut one along the other.
  obtain ⟨seen, along⟩ := cutsAlong_teams cutOff broken teams.entries Table.empty
  have written : Codec.teams.write teams =
      '{' :: (commaSeparated ((teams.entries.map teamText).map ('"' :: ·)) ++ ['}']) := by
    simp [Codec.teams, writeObject, writeMember, teamText, memberText, quote, Function.comp_def]
  refine ⟨seen, fun room text lost rest enough _ whole => ?_⟩
  rw [written] at whole
  cases room with
  | zero => exact absurd enough (by decide)
  | succ room =>
    cases text with
    | nil => exact .inside (.error cutOff)
    | cons c text =>
      obtain ⟨rfl, body⟩ := List.cons.inj whole
      have texts : text ++ lost =
          commaSeparated ((teams.entries.map teamText).map ('"' :: ·)) ++ '}' :: rest :=
        body.trans (List.append_assoc _ _ _)
      exact readObject_cut cutOff (along room (Nat.le_of_succ_le_succ enough)) texts

end Teams

section Whole

/-- A problem of a text that ends too early. -/
def DecodeError.CutsOff (problem : DecodeError) : Prop :=
  problem.family = .cutOff

/-- A problem of a text that is no JSON text, be it broken or cut off. -/
def DecodeError.Illegible (problem : DecodeError) : Prop :=
  problem.family ≠ .misshapen

instance (problem : DecodeError) : Decidable problem.CutsOff :=
  inferInstanceAs (Decidable (_ = _))

instance (problem : DecodeError) : Decidable problem.Illegible :=
  inferInstanceAs (Decidable (_ ≠ _))

/-- Documents that are cut off anywhere are refused, and all but directories for ending too early. -/
theorem cut_documents_refused :
    (∀ current, Codec.currentState.RefusesCuts DecodeError.CutsOff current) ∧
      (∀ team, Codec.team.RefusesCuts DecodeError.CutsOff team) ∧
      (∀ service, Codec.service.RefusesCuts DecodeError.CutsOff service) ∧
      (∀ stats, Codec.serviceStats.RefusesCuts DecodeError.CutsOff stats) ∧
      ∀ teams, Codec.teams.RefusesCuts DecodeError.Illegible teams := by
  have cutOff : DecodeError.CutsOff .truncated := by decide
  have team : ∀ team, Codec.team.RefusesCuts DecodeError.CutsOff team := by
    intro team
    obtain ⟨_, cuts⟩ := team.exists_cuts cutOff
    exact cuts.refuses (by decide)
  -- The number of a team that is cut off is broken, since no quote ends it.
  have teams : ∀ teams, Codec.teams.RefusesCuts DecodeError.Illegible teams := by
    intro teams
    have broken : DecodeError.Illegible .malformed := by decide
    obtain ⟨_, cuts⟩ := TeamsDocument.exists_cuts (by decide) broken teams
    exact cuts.refuses (by decide)
  exact ⟨fun current => (current.cuts cutOff).refuses (by decide), team,
    fun service => (service.cuts cutOff).refuses (by decide),
    fun stats => (stats.cuts cutOff).refuses (by decide), teams⟩

/-- A state is cut inside a number, a team inside an escape, and a directory inside a key. -/
theorem cut_inside_number_escape_and_key :
    Codec.teams.ofText "\x7b\"1" = .error .malformed ∧
      (∃ problem, Codec.currentState.ofText "\x7b\"current_tick\":1" = .error problem ∧
        problem.CutsOff) ∧
      (∃ problem, Codec.team.ofText "\x7b\"id\":7,\"name\":\"\\u00" = .error problem ∧
        problem.CutsOff) ∧
      ∃ problem, Codec.teams.ofText "\x7b\"1" = .error problem ∧ problem.Illegible := by
  obtain ⟨state, team, _, _, teams⟩ := cut_documents_refused
  -- The state is in tick 12, and the directory has a team under the number 12.
  have cutState := state ⟨12, .running, 60, 11, none⟩ "\x7b\"current_tick\":1"
    "2,\"state\":3,\"current_tick_until\":60,\"scoreboard_tick\":11\x7d" (by decide +kernel)
    (by decide)
  have cutTeam := team ⟨7, "\x07", "", "", "", some ""⟩ "\x7b\"id\":7,\"name\":\"\\u00"
    "07\",\"vulnbox\":\"\",\"aff\":\"\",\"web\":\"\",\"logo\":\"\"\x7d" (by decide +kernel) (by decide)
  have cutTeams := teams ⟨[(12, ⟨12, "", "", "", "", none⟩)]⟩ "\x7b\"1"
    "2\":\x7b\"id\":12,\"name\":\"\",\"vulnbox\":\"\",\"aff\":\"\",\"web\":\"\",\"logo\":null\x7d\x7d"
    (by decide +kernel) (by decide)
  exact ⟨by decide +kernel, cutState, cutTeam, cutTeams⟩

end Whole

end Scoreboard
