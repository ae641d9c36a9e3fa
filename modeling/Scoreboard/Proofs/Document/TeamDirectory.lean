import Scoreboard.Document.Team
import Scoreboard.Proofs.Json.Documents
import Scoreboard.Proofs.Json.Values
import Scoreboard.Proofs.Table

/-! The team directory: which texts are decoded to one, and which teams it then lists. -/

namespace Scoreboard

section Keys

variable {name rest behind : List Char} {id : TeamId}

/-- The characters of an integer need no escape between quotes. -/
theorem needsNoEscape_intDigits (value : Int) :
    (intDigits value).all needsNoEscape = true := by
  -- The characters are digits, behind a minus sign at most.
  have digit : ∀ c : Char, c.isDigit = true → needsNoEscape c = true := by
    intro c digit
    refine needsNoEscape_iff.mpr ⟨?_, ?_, fun control => ?_⟩
    · rintro rfl
      cases digit
    · rintro rfl
      cases digit
    · -- Controls come before all digits.
      have low : 48 ≤ c.toNat := (Char.isDigit_iff_toNat.mp digit).1
      have high : c.toNat < 32 := control
      omega
  refine List.all_eq_true.mpr fun c member => ?_
  cases value with
  | ofNat value => exact digit c (isDigit_of_mem_natDigits member)
  | negSucc value =>
    rcases List.mem_cons.mp member with rfl | member
    · decide
    · exact digit c (isDigit_of_mem_natDigits member)

/-- An integer may stand between quotes. -/
theorem stringBody_intDigits (value : Int) : StringBody (intDigits value) :=
  (Spells.plainly (needsNoEscape_intDigits value)).stringBody

/-- A quote does not carry a number on. -/
theorem stops_quote (rest : List Char) : Stops ('"' :: rest) := by
  rintro c ⟨⟩
  decide

/-- A key is read as a number exactly if it is what the number is written as. -/
theorem readTeamKey_iff (string : StringBody name) :
    readTeamKey (name ++ '"' :: rest) = .ok (id, behind) ↔
      behind = rest ∧ name = intDigits id.toInt := by
  constructor
  · intro read
    cases whole : name ++ '"' :: rest with
    | nil => exact absurd whole (by simp)
    | cons c text =>
      rw [whole] at read
      simp only [readTeamKey] at read
      split at read
      · rename_i opens
        obtain ⟨⟨number, last⟩, inside, closed⟩ := bind_eq_ok_iff.mp read
        obtain ⟨⟨value, between⟩, digits, same⟩ := map_eq_ok_iff.mp inside
        cases same
        obtain ⟨written, -, above, below⟩ := of_readWithin opens digits
        -- Right behind the digits stands a quote, which has to be the one that ends the key.
        split at closed
        · rename_i same
          cases same
          cases closed
          obtain ⟨rfl, rfl⟩ := string.unique (stringBody_intDigits value) (whole.trans written)
          refine ⟨rfl, ?_⟩
          rw [Int64.toInt_ofInt_of_le above (by omega)]
        · cases closed
      · cases read
  · rintro ⟨rfl, rfl⟩
    have low := Int64.le_toInt id
    have high := Int64.toInt_lt id
    have digits : readWithin (-0x8000000000000000) 0x7FFFFFFFFFFFFFFF
        (intDigits id.toInt ++ '"' :: behind) = .ok (id.toInt, '"' :: behind) :=
      readWithin_intDigits (stops_quote behind) (by omega) (by omega) (by decide) (by decide)
    obtain ⟨c, text, written, opens⟩ := intDigits_eq_cons id.toInt
    rw [written, List.cons_append] at digits ⊢
    have number : Codec.int64.read 0 (c :: (text ++ '"' :: behind)) = .ok (id, '"' :: behind) :=
      map_eq_ok_iff.mpr ⟨_, digits, congrArg (fun id => (id, '"' :: behind)) id.ofInt_toInt⟩
    simp only [readTeamKey, if_pos opens]
    exact bind_eq_ok_iff.mpr ⟨_, number, rfl⟩

end Keys

section Logos

variable {room : Nat} {text rest behind : List Char} {logo : Option String}

/-- A logo is no number, no list and no object. -/
theorem opens_of_readLogo {c : Char} (dark : isJsonBlank c = false)
    (read : Codec.logo.read room (c :: text) = .ok (logo, behind)) :
    c = 'n' ∨ c = 't' ∨ c = 'f' ∨ c = '"' := by
  obtain ⟨⟨json, last⟩, inside, judged⟩ := bind_eq_ok_iff.mp read
  obtain ⟨_, accepted, _⟩ := bind_eq_ok_iff.mp judged
  unfold Json.read at inside
  rw [dropBlanks_cons dark] at inside
  -- A value of another kind is read as what stands for no logo.
  split at inside
  case h_1 => cases inside
  case h_2 same | h_3 same | h_4 same | h_5 same => cases same; simp
  case h_6 | h_7 =>
    split at inside
    · cases inside
    · obtain ⟨_, _, same⟩ := map_eq_ok_iff.mp inside
      cases same
      cases accepted
  case h_8 =>
    split at inside
    · obtain ⟨⟨number, _⟩, _, same⟩ := map_eq_ok_iff.mp inside
      cases same
      simp only [Json.ofNumeral] at accepted
      split at accepted <;> cases accepted
    · cases inside

/-- The strings between quotes are the paths of logos. -/
theorem readLogo_string (text : List Char) : Codec.logo.read room ('"' :: text) =
    (readString text).map fun (path, rest) => (if path.isEmpty then none else some path, rest) := by
  -- What is read as any value behind a quote is a string.
  have read : Json.read room ('"' :: text) =
      (readString text).map fun (path, rest) => (.string path, rest) := by
    unfold Json.read
    rfl
  simp only [Codec.logo, read]
  cases readString text <;> rfl

/-- A logo is a flag, `null` or a string, and an empty string is no logo. -/
theorem Codec.logo_exact : Codec.logo.Exact fun _ text logo =>
    (logo = none ∧ (text = "null".toList ∨ text = "true".toList ∨ text = "false".toList)) ∨
    ∃ body path, text = '"' :: (body ++ ['"']) ∧ Spells body path.toList ∧
      logo = if path.isEmpty then none else some path := by
  refine .of_iff (fun gap room text => ?_) fun {room text rest logo behind} written ends => ?_
  · simp only [Codec.logo, Json.read_blanks]
  have null : Codec.logo.read room ("null".toList ++ rest) = .ok (none, rest) := by
    cases room <;> rfl
  have flag : ∀ value, Codec.logo.read room (Codec.bool.write value ++ rest) = .ok (none, rest) := by
    intro value
    cases room <;> cases value <;> rfl
  constructor
  · intro read
    obtain ⟨c, others, rfl, dark, _⟩ := written.head
    -- The first character settles how the value goes on.
    obtain rfl | rfl | rfl | rfl := opens_of_readLogo dark read
    · obtain rfl : others = "ull".toList := written.continues
      cases null.symm.trans read
      exact ⟨rfl, .inl ⟨rfl, .inl rfl⟩⟩
    · obtain rfl : others = "rue".toList := written.continues
      cases (flag true).symm.trans read
      exact ⟨rfl, .inl ⟨rfl, .inr (.inl rfl)⟩⟩
    · obtain rfl : others = "alse".toList := written.continues
      cases (flag false).symm.trans read
      exact ⟨rfl, .inl ⟨rfl, .inr (.inr rfl)⟩⟩
    · obtain ⟨body, string, rfl⟩ := written.continues
      rw [List.cons_append, List.append_assoc, readLogo_string] at read
      obtain ⟨⟨path, last⟩, inside, same⟩ := map_eq_ok_iff.mp read
      obtain ⟨rfl, spells⟩ := string.readString_iff.mp inside
      cases same
      exact ⟨rfl, .inr ⟨body, path, rfl, spells, rfl⟩⟩
  · rintro ⟨rfl, ⟨rfl, rfl | rfl | rfl⟩ | ⟨body, path, rfl, spells, rfl⟩⟩
    · exact null
    · exact flag true
    · exact flag false
    · rw [List.cons_append, List.append_assoc, readLogo_string]
      exact map_eq_ok_iff.mpr ⟨_, spells.stringBody.readString_iff.mpr ⟨rfl, spells⟩, rfl⟩

end Logos

/-- A member of the directory is listed as a team under its number. -/
structure Member.Lists (member : Member) (entry : TeamId × Team) : Prop where
  key : member.name = intDigits entry.1.toInt
  team : Codec.team.decode member.content.value = .ok entry.2

section Teams

variable {room : Nat} {text rest behind : List Char} {teams : TeamsDocument} {members : List Member}

/-- The members of a team are read from their own texts. -/
theorem Team.fields_local : Team.record.fields.Local :=
  ⟨Codec.int64_exact.toLocal, Codec.string_exact.toLocal, Codec.string_exact.toLocal,
    Codec.string_exact.toLocal, Codec.string_exact.toLocal, Codec.logo_exact.toLocal, trivial⟩

/-- The members of a team have different names. -/
theorem Team.names_nodup : Team.record.fields.names.Nodup := by
  decide

/-- The members of a team do not depend on how deep the team stands. -/
theorem Team.fields_roomless : Team.record.fields.Roomless :=
  ⟨Codec.int64_exact.roomless, Codec.string_exact.roomless, Codec.string_exact.roomless,
    Codec.string_exact.roomless, Codec.string_exact.roomless, Codec.logo_exact.roomless, trivial⟩

/-- A team inside the directory is the team that its text alone is decoded to. -/
theorem team_takes_iff (written : ValueText text) {team : Team} :
    Codec.team.Takes (room + 1) text team ↔ Codec.team.decode text = .ok team := by
  have alone : Codec.team.decode (Blanks.none.text ++ (text ++ Blanks.none.text)) = .ok team ↔
      Codec.team.Takes nestingLimit text team :=
    (Record.exact Team.fields_local Team.names_nodup).decode_iff _ _ written
  have bare : Blanks.none.text ++ (text ++ Blanks.none.text) = text := List.append_nil text
  -- No member of a team opens another level, so the room around the team does not matter.
  have other : ∀ room other, Codec.team.Takes (room + 1) text team →
      Codec.team.Takes (other + 1) text team := fun room other taken =>
    Record.takes_inOther Team.fields_local Team.names_nodup Team.fields_roomless written taken
  rw [← bare, alone, bare]
  exact ⟨other room (nestingLimit - 1), other (nestingLimit - 1) room⟩

/-- One member more puts its team under its number. -/
def TeamsDocument.Step (room : Nat) (teams : TeamsDocument) (member : Member)
    (later : TeamsDocument) : Prop :=
  ∃ id team, member.name = intDigits id.toInt ∧ Codec.team.Takes room member.content.value team ∧
    later = teams.insert id team

/-- A member of the directory puts its team under its number. -/
theorem readTeamMember_stepsAlong (names : ∀ member ∈ members, StringBody member.name)
    (written : ∀ member ∈ members, ValueText member.content.value) :
    StepsAlong (readTeamMember room) (TeamsDocument.Step room) members := by
  intro own inside teams later rest behind ends
  have between : own.named ++ rest =
      own.name ++ '"' :: (own.between.text ++ ':' :: (own.content.text ++ rest)) := by
    simp [Member.named]
  have colon := readColon_behind own.between (own.content.text ++ rest)
  have inner := (Record.exact Team.fields_local Team.names_nodup).toLocal
  -- Behind the key come a colon and the team.
  have content : ∀ team behind, Codec.team.read room (own.content.text ++ rest) =
      .ok (team, behind) ↔ behind = own.content.after.text ++ rest ∧
        Codec.team.Takes room own.content.value team :=
    fun team behind => inner.reads_element (written own inside) ends
  rw [between]
  constructor
  · intro read
    obtain ⟨⟨id, middle⟩, key, read⟩ := bind_eq_ok_iff.mp read
    obtain ⟨rfl, name⟩ := (readTeamKey_iff (names own inside)).mp key
    obtain ⟨start, colon', read⟩ := bind_eq_ok_iff.mp read
    cases colon.symm.trans colon'
    obtain ⟨⟨team, last⟩, value, same⟩ := bind_eq_ok_iff.mp read
    obtain ⟨rfl, taken⟩ := (content _ _).mp value
    cases same
    exact ⟨rfl, id, team, name, taken, rfl⟩
  · rintro ⟨rfl, id, team, name, taken, rfl⟩
    exact bind_eq_ok_iff.mpr ⟨_, (readTeamKey_iff (names own inside)).mpr ⟨rfl, name⟩,
      bind_eq_ok_iff.mpr ⟨_, colon, bind_eq_ok_iff.mpr ⟨_, (content _ _).mpr ⟨rfl, taken⟩, rfl⟩⟩⟩

/-- The directory is read from an object, with one level less to open inside. -/
theorem Codec.read_teamsText (gap : Blanks) (names : ∀ member ∈ members, StringBody member.name)
    (written : ∀ member ∈ members, ValueText member.content.value) :
    Codec.teams.read (room + 1) (objectText gap members ++ rest) = .ok (teams, behind) ↔
      behind = rest ∧ Leads (TeamsDocument.Step room) Table.empty members teams := by
  rw [objectText, List.cons_append, List.append_assoc]
  exact readObject_iff (readTeamMember_stepsAlong names written) gap

/-- The directory is read from objects only. -/
theorem Codec.teams_exact : Codec.teams.Exact fun room text teams =>
    ∃ less gap members, room = less + 1 ∧ text = objectText gap members ∧
      (∀ member ∈ members, StringBody member.name) ∧
        (∀ member ∈ members, ValueText member.content.value) ∧
          Leads (TeamsDocument.Step less) Table.empty members teams := by
  -- A value that opens with another character than a brace is refused.
  refine .of_iff (fun gap room text => ?_) fun {room text rest teams behind} written ends => ?_
  · simp only [Codec.teams, gap.dropBlanks_append]
  constructor
  · intro read
    obtain ⟨c, others, rfl, dark, _⟩ := written.head
    by_cases brace : c = '{'
    · subst brace
      obtain ⟨gap, members, names, values, rfl⟩ := written.continues
      cases room with
      | zero => cases read
      | succ less =>
        obtain ⟨rfl, leads⟩ := (read_teamsText gap names values).mp read
        exact ⟨rfl, less, gap, members, rfl, rfl, names, values, leads⟩
    · simp only [Codec.teams, List.cons_append, dropBlanks_cons dark] at read
      split at read
      · cases read
      · rename_i same
        cases same
        exact absurd rfl brace
      · cases read
  · rintro ⟨rfl, less, gap, members, rfl, rfl, names, values, leads⟩
    exact (read_teamsText gap names values).mpr ⟨rfl, leads⟩

/-- The members are teams that are put under their numbers one after the other. -/
theorem leads_teams_iff (written : ∀ member ∈ members, ValueText member.content.value)
    {start : TeamsDocument} : Leads (TeamsDocument.Step (room + 1)) start members teams ↔
      ∃ listed, List.Forall₂ Member.Lists members listed ∧
        teams = listed.foldl (fun table entry => table.insert entry.1 entry.2) start := by
  -- The induction is on the members, each of which is put into the table that the ones before it
  -- left.
  induction members generalizing start with
  | nil => simp [leads_nil_iff, List.forall₂_nil_left_iff]
  | cons member members ih =>
    obtain ⟨own, others⟩ := List.forall_mem_cons.mp written
    rw [leads_cons_iff]
    constructor
    · rintro ⟨between, ⟨id, team, name, taken, rfl⟩, leads⟩
      obtain ⟨listed, all, rfl⟩ := (ih others).mp leads
      exact ⟨(id, team) :: listed, .cons ⟨name, (team_takes_iff own).mp taken⟩ all, rfl⟩
    · rintro ⟨_, ⟨⟩, rfl⟩
      rename_i entry listed first all
      exact ⟨_, ⟨entry.1, entry.2, first.key, (team_takes_iff own).mpr first.team, rfl⟩,
        (ih others).mpr ⟨listed, all, rfl⟩⟩

/-- A document is decoded to the teams that its members list. -/
theorem decode_teams_iff {document : ObjectDocument} :
    Codec.teams.decode document.text = .ok teams ↔
      ∃ listed, List.Forall₂ Member.Lists document.members listed ∧
        teams = Table.ofEntries listed := by
  -- A whole text is decoded from its value, with nothing behind it but blanks.
  have object := ValueText.object document.gap document.members document.names document.written
  rw [ObjectDocument.text, Codec.teams_exact.decode_iff _ _ object]
  have read := @Codec.read_teamsText (nestingLimit - 1) [] [] teams document.members
    document.gap document.names document.written
  rw [List.append_nil] at read
  exact read.trans ((and_iff_right rfl).trans (leads_teams_iff document.written))

end Teams

section Directories

variable {teams : TeamsDocument} {members : List Member}

/-- A member is listed as one team, under one number. -/
theorem Member.Lists.unique {member : Member} {entry other : TeamId × Team}
    (lists : member.Lists entry) (listsToo : member.Lists other) : entry = other := by
  have key : entry.1 = other.1 := by
    -- Both numbers are read back from what the key says.
    have first := (Codec.int64_returns entry.1).reads 0 [] (Nat.le_refl 0) .nothing
    have second := (Codec.int64_returns other.1).reads 0 [] (Nat.le_refl 0) .nothing
    have same : Codec.int64.write entry.1 = Codec.int64.write other.1 :=
      lists.key.symm.trans listsToo.key
    rw [same, second] at first
    exact (Prod.ext_iff.mp (Except.ok.inj first)).1.symm
  have team : entry.2 = other.2 := by
    have first := lists.team
    rw [listsToo.team] at first
    exact (Except.ok.inj first).symm
  exact Prod.ext key team

/-- Members list teams in one way only. -/
theorem lists_unique {listed others : List (TeamId × Team)}
    (lists : List.Forall₂ Member.Lists members listed)
    (listsToo : List.Forall₂ Member.Lists members others) : listed = others := by
  have unique : Relator.RightUnique Member.Lists := fun _ _ _ own other => own.unique other
  exact List.right_unique_forall₂' unique lists listsToo

/-- Members list teams exactly when each has the number of a team for its name and a team for its
value. -/
theorem exists_lists_iff : (∃ listed, List.Forall₂ Member.Lists members listed) ↔
    ∀ member ∈ members, (∃ id : TeamId, member.name = intDigits id.toInt) ∧
      ∃ team, Codec.team.decode member.content.value = .ok team := by
  -- The induction is on the members, and each of them stands for itself.
  induction members with
  | nil => simp
  | cons member members ih =>
    rw [List.forall_mem_cons, ← ih]
    constructor
    · rintro ⟨_, ⟨⟩⟩
      rename_i entry listed own all
      exact ⟨⟨⟨entry.1, own.key⟩, entry.2, own.team⟩, listed, all⟩
    · rintro ⟨⟨⟨id, key⟩, team, decoded⟩, listed, all⟩
      exact ⟨(id, team) :: listed, .cons ⟨key, decoded⟩ all⟩

/-- A team with the number it is listed under. -/
structure Identified (entry later : TeamId × Team) : Prop where
  key : later.1 = entry.1
  id : later.2.id = entry.1
  rest : { later.2 with id := entry.2.id } = entry.2

/-- With the numbers put in, every team has that of its entry, and is the same otherwise. -/
theorem TeamsDocument.identified (teams : TeamsDocument) :
    List.Forall₂ Identified teams.entries teams.withIds.entries :=
  List.forall₂_map_right_iff.mpr (List.forall₂_same.mpr fun _ _ => ⟨rfl, rfl, rfl⟩)

end Directories

/--
An object is decoded to a directory exactly when each key is the text of a number and each value a team.

The directory has every number once, where it first comes, with the team that comes last under it.
Putting the numbers into the teams changes nothing else, and teams under distinct numbers are
in the order of the document.
-/
theorem team_directories_decoded (document : ObjectDocument) :
    ((∃ teams, Codec.teams.decode document.text = .ok teams) ↔
      ∀ member ∈ document.members, (∃ id : TeamId, member.name = intDigits id.toInt) ∧
        ∃ team, Codec.team.decode member.content.value = .ok team) ∧
    ∀ teams listed, Codec.teams.decode document.text = .ok teams →
      List.Forall₂ Member.Lists document.members listed →
        teams.keys = (listed.map Prod.fst).eraseDups ∧
        (∀ id, teams.get? id =
          ((listed.filter fun entry => entry.1 = id).getLast?).map Prod.snd) ∧
        List.Forall₂ Identified teams.entries (TeamsDocument.withIds teams).entries ∧
        ((listed.map Prod.fst).Nodup → (TeamsDocument.withIds teams).all =
          listed.map fun entry => { entry.2 with id := entry.1 }) := by
  refine ⟨?_, fun teams listed decoded lists => ?_⟩
  · rw [← exists_lists_iff]
    constructor
    · rintro ⟨teams, decoded⟩
      obtain ⟨listed, lists, _⟩ := decode_teams_iff.mp decoded
      exact ⟨listed, lists⟩
    · rintro ⟨listed, lists⟩
      exact ⟨_, decode_teams_iff.mpr ⟨listed, lists, rfl⟩⟩
  · obtain ⟨others, listsToo, rfl⟩ := decode_teams_iff.mp decoded
    -- A member is listed in one way, so the table is made of the entries given.
    obtain rfl := lists_unique lists listsToo
    refine ⟨Table.keys_ofEntries listed, Table.get?_ofEntries listed,
      TeamsDocument.identified _, fun distinct => ?_⟩
    have order := Table.entries_ofEntries distinct
    simp only [TeamsDocument.all, TeamsDocument.withIds, Table.mapEntries, order, List.map_map]
    rfl

/-- A team without blanks, as the list of a number and a name. -/
def Element.pair (number name : List Char) : List Element :=
  [⟨.none, number, .none⟩, ⟨.none, '"' :: (name ++ ['"']), .none⟩]

/-- A directory that has one number twice, and another number in every team. -/
def repeatedTeams : ObjectDocument where
  before := .none
  gap := .none
  members := [.dense "3" "[7,\"a\"]", .dense "1" "[7,\"b\"]", .dense "3" "[7,\"c\"]"]
  after := .none
  names := by
    have key : ∀ {text : String} (value : Int), text.toList = intDigits value →
        StringBody text.toList := fun value same => same ▸ stringBody_intDigits value
    simp only [List.forall_mem_cons]
    exact ⟨key 3 (by decide), key 1 (by decide), key 3 (by decide), List.forall_mem_nil _⟩
  written := by
    have pair : ∀ name : List Char, StringBody name →
        ValueText (listText .none (Element.pair ['7'] name)) := by
      intro name string
      refine .list .none _ ?_
      simp only [Element.pair, List.forall_mem_cons]
      exact ⟨.number (numberText_intDigits 7), .string string, List.forall_mem_nil _⟩
    have plain : ∀ c : Char, (c ≠ '"' ∧ c ≠ '\\' ∧ ¬ c < ' ') → StringBody [c] :=
      fun c plain => .plain plain.1 plain.2.1 plain.2.2 .nil
    simp only [List.forall_mem_cons]
    exact ⟨pair _ (plain 'a' (by decide)), pair _ (plain 'b' (by decide)),
      pair _ (plain 'c' (by decide)), List.forall_mem_nil _⟩

/-- A number that occurs twice keeps its first place and has its last team. -/
theorem repeated_teams_decoded : ∃ teams, Codec.teams.decode repeatedTeams.text = .ok teams ∧
    teams.keys = [3, 1] ∧ teams.get? 3 = some ⟨7, "c", "", "", "", none⟩ := by
  -- The three members are listed by evaluation, and the theorem says what table they make.
  have lists : List.Forall₂ Member.Lists repeatedTeams.members
      [(3, ⟨7, "a", "", "", "", none⟩), (1, ⟨7, "b", "", "", "", none⟩),
        (3, ⟨7, "c", "", "", "", none⟩)] :=
    .cons ⟨by decide, rfl⟩ <| .cons ⟨by decide, rfl⟩ <| .cons ⟨by decide, rfl⟩ .nil
  obtain ⟨accepted, listing⟩ := team_directories_decoded repeatedTeams
  obtain ⟨teams, decoded⟩ := accepted.mpr (exists_lists_iff.mp ⟨_, lists⟩)
  obtain ⟨keys, last, _⟩ := listing teams _ decoded lists
  exact ⟨teams, decoded, keys, last 3⟩

end Scoreboard
