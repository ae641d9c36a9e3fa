import Scoreboard.Proofs.Json.Locality

/-! Members: an object is read member by member, each from its own text. -/

namespace Scoreboard

/-- Steps along a list lead from one state to another. -/
inductive Leads {σ μ : Type} (Step : σ → μ → σ → Prop) : σ → List μ → σ → Prop
  | nil (state : σ) : Leads Step state [] state
  | cons {state between later : σ} {first : μ} {others : List μ} (step : Step state first between)
      (behind : Leads Step between others later) : Leads Step state (first :: others) later

/-- A reader makes a step at each of the members, and reads to the end of its value. -/
def StepsAlong {σ : Type} (member : σ → List Char → Except DecodeError (σ × List Char))
    (Step : σ → Member → σ → Prop) (members : List Member) : Prop :=
  ∀ own ∈ members, ∀ {state later rest behind}, Ends rest →
    (member state (own.named ++ rest) = .ok (later, behind) ↔
      behind = own.content.after.text ++ rest ∧ Step state own later)

section Chains

variable {σ μ : Type} {Step : σ → μ → σ → Prop} {state later : σ} {first : μ} {others : List μ}

/-- No members change nothing. -/
theorem leads_nil_iff : Leads Step state [] later ↔ later = state := by
  -- The first way is the only one for no members.
  constructor
  · rintro ⟨⟩
    rfl
  · rintro rfl
    exact .nil _

/-- Members lead where the others lead from where the first one does. -/
theorem leads_cons_iff : Leads Step state (first :: others) later ↔
    ∃ between, Step state first between ∧ Leads Step between others later := by
  -- The second way is the only one for a first member.
  constructor
  · rintro ⟨⟩
    rename_i between step behind
    exact ⟨between, step, behind⟩
  · rintro ⟨between, step, behind⟩
    exact .cons step behind

/-- Steps on two states at once are steps on each of them. -/
theorem leads_prod_iff {τ : Type} {Other : τ → μ → τ → Prop} {own ownLater : τ} {members : List μ} :
    Leads (fun both member laters => Step both.1 member laters.1 ∧ Other both.2 member laters.2)
      (state, own) members (later, ownLater) ↔
        Leads Step state members later ∧ Leads Other own members ownLater := by
  -- Neither of the two states is looked at by the steps of the other one.
  induction members generalizing state own with
  | nil => simp [leads_nil_iff]
  | cons first members ih =>
    simp only [leads_cons_iff, Prod.exists]
    constructor
    · rintro ⟨between, between', ⟨step, step'⟩, behind⟩
      obtain ⟨one, two⟩ := ih.mp behind
      exact ⟨⟨between, step, one⟩, ⟨between', step', two⟩⟩
    · rintro ⟨⟨between, step, one⟩, ⟨between', step', two⟩⟩
      exact ⟨between, between', ⟨step, step'⟩, ih.mpr ⟨one, two⟩⟩

end Chains

section Objects

variable {σ : Type} {member : σ → List Char → Except DecodeError (σ × List Char)}
  {Step : σ → Member → σ → Prop} {first second : Member} {members : List Member} {turns : Nat}
  {state later : σ} {rest behind more : List Char}

/-- Blanks in front of a member are dropped. -/
theorem Member.dropBlanks_append (member : Member) (rest : List Char) :
    dropBlanks (member.text ++ rest) = '"' :: (member.named ++ rest) := by
  rw [Member.text, List.append_assoc, member.before.dropBlanks_append]
  rfl

/-- The value of a member stands behind its colon. -/
theorem readColon_behind (between : Blanks) (text : List Char) :
    readColon (between.text ++ ':' :: text) = .ok text := by
  unfold readColon
  rw [between.dropBlanks_append]
  rfl

/-- The last member stands in front of the closing brace. -/
theorem readMembers_last (steps : StepsAlong member Step [first]) :
    readMembers member (turns + 1) state (first.named ++ '}' :: rest) = .ok (later, behind) ↔
      behind = rest ∧ Leads Step state [first] later := by
  have own := fun later behind => @steps first List.mem_cons_self state later ('}' :: rest) behind
    (ends_cons (.inr (.inr rfl)))
  have brace : dropBlanks (first.content.after.text ++ '}' :: rest) = '}' :: rest :=
    first.content.after.dropBlanks_append _
  simp only [leads_cons_iff, leads_nil_iff]
  constructor
  · intro read
    -- The member leaves the blanks behind its value, and these are dropped in front of the brace.
    obtain ⟨⟨between, middle⟩, inside, read⟩ := bind_eq_ok_iff.mp read
    obtain ⟨rfl, step⟩ := (own _ _).mp inside
    simp only [brace] at read
    cases read
    exact ⟨rfl, later, step, rfl⟩
  · rintro ⟨rfl, between, step, rfl⟩
    refine bind_eq_ok_iff.mpr ⟨_, (own _ _).mpr ⟨rfl, step⟩, ?_⟩
    simp only [brace]

/-- Behind another member stand a comma and the next one. -/
theorem readMembers_more (steps : StepsAlong member Step [first]) :
    readMembers member (turns + 1) state (first.named ++ ',' :: (second.text ++ more)) =
        .ok (later, behind) ↔
      ∃ between, Step state first between ∧
        readMembers member turns between (second.named ++ more) = .ok (later, behind) := by
  have own := fun later behind => @steps first List.mem_cons_self state later
    (',' :: (second.text ++ more)) behind (ends_cons (.inl rfl))
  have comma : dropBlanks (first.content.after.text ++ ',' :: (second.text ++ more)) =
      ',' :: (second.text ++ more) := first.content.after.dropBlanks_append _
  have name := second.dropBlanks_append more
  -- The blanks behind the value and those in front of the next name are dropped alike.
  constructor
  · intro read
    obtain ⟨⟨between, middle⟩, inside, read⟩ := bind_eq_ok_iff.mp read
    obtain ⟨rfl, step⟩ := (own _ _).mp inside
    simp only [comma, name] at read
    exact ⟨between, step, read⟩
  · rintro ⟨between, step, read⟩
    refine bind_eq_ok_iff.mpr ⟨_, (own _ _).mpr ⟨rfl, step⟩, ?_⟩
    simp only [comma, name]
    exact read

/-- A reader that goes along members goes along the first one, and along the others. -/
theorem StepsAlong.cons (steps : StepsAlong member Step (first :: members)) :
    StepsAlong member Step [first] ∧ StepsAlong member Step members := by
  refine ⟨fun own inside => steps own ?_, fun own inside => steps own (List.mem_cons_of_mem _ inside)⟩
  rw [List.mem_singleton.mp inside]
  exact List.mem_cons_self

/-- Members are read one by one, up to the closing brace. -/
theorem readMembers_iff (steps : StepsAlong member Step (first :: members))
    (enough : members.length < turns) :
    readMembers member turns state
      (first.named ++ ((members.map Member.text).flatMap (',' :: ·) ++ '}' :: rest)) =
        .ok (later, behind) ↔ behind = rest ∧ Leads Step state (first :: members) later := by
  -- Each member takes one turn, and the last one takes the brace with it.
  induction members generalizing first state turns with
  | nil =>
    obtain ⟨turns, rfl⟩ := Nat.exists_eq_add_of_lt enough
    exact readMembers_last steps
  | cons second members ih =>
    obtain ⟨own, others⟩ := steps.cons
    obtain ⟨turns, rfl⟩ := Nat.exists_eq_add_of_lt enough
    have inside := fun between => @ih second (members.length + 1 + turns) between others (by omega)
    rw [List.map_cons, commas_cons_append, List.length_cons, readMembers_more own,
      leads_cons_iff]
    simp only [inside]
    constructor
    · rintro ⟨between, step, rfl, behind⟩
      exact ⟨rfl, between, step, behind⟩
    · rintro ⟨rfl, between, step, behind⟩
      exact ⟨between, step, rfl, behind⟩

/-- An object is read member by member. -/
theorem readObject_iff (steps : StepsAlong member Step members) (gap : Blanks) :
    readObject member state (enclosed gap (members.map Member.text) ++ '}' :: rest) =
      .ok (later, behind) ↔ behind = rest ∧ Leads Step state members later := by
  cases members with
  | nil =>
    have brace : dropBlanks (gap.text ++ '}' :: rest) = '}' :: rest := gap.dropBlanks_append _
    rw [List.map_nil, enclosed_nil, leads_nil_iff]
    simp only [readObject, brace, Except.ok.injEq, Prod.mk.injEq]
    rw [and_comm]
    exact and_congr eq_comm eq_comm
  | cons first members =>
    have commas := length_le_flatMap_comma (members.map Member.text)
    rw [List.length_map] at commas
    -- The first member has no comma in front of it.
    rw [List.map_cons, enclosed_cons, List.append_assoc]
    simp only [readObject, first.dropBlanks_append]
    refine readMembers_iff steps ?_
    -- The text has room for all members.
    simp only [List.length_append]
    omega

end Objects

end Scoreboard
