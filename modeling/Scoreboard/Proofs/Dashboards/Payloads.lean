import Scoreboard.Forwarder
import Scoreboard.Proofs.Json.Doubles
import Scoreboard.Proofs.Json.Values
import Scoreboard.Relay.Announcement

/-! Payloads: whatever names an event tells of, its data is a single line that gives them back. -/

namespace Scoreboard

/-- No control stands in a text, and so no line ends in it. -/
def Visible (text : List Char) : Prop :=
  ∀ c ∈ text, ¬ c < ' '

/-- The data of an event has no controls, and is one data line in front of the name of the event. -/
structure ServerEvent.SingleLine (event : ServerEvent) (name : String) : Prop where
  visible : Visible event.data.toList
  chunk : event.chunk = "data: ".toList ++ event.data.toList ++
    "\nevent: ".toList ++ name.toList ++ "\n\n".toList

/-- A double is written as a number literal, and as `null` only when it is not finite. -/
def WrittenPlainly (x : Float) : Prop :=
  x.isFinite = true → ∃ literal, readNumeral (floatText x) = .ok (literal, [])

/-- The points of all places on a podium are written plainly. -/
def PlainPoints (podium : List PodiumEntry) : Prop :=
  ∀ entry ∈ podium, WrittenPlainly entry.points

namespace Json

/-- What the text of a double is read as. -/
def ofDouble (x : Float) : Json :=
  match readNumeral (floatText x) with
  | .ok (literal, _) => .ofNumeral literal
  | .error _ => .null

/-- A name, or `null` in place of one that is not known. -/
def ofName : Option String → Json
  | none => .null
  | some name => .string name

/-- The names of a banner. -/
def ofNames (service team : String) : Json :=
  .object [("service", .string service), ("team", .string team)]

/-- A banner, or `null` in place of one that is not shown. -/
def ofBanner : Banner → Json
  | .idle => .null
  | .shown service team _ => ofNames service team

/-- A place on a podium. -/
def ofEntry (entry : PodiumEntry) : Json :=
  .object [("team_id", .int entry.teamId.toInt), ("name", ofName entry.name),
    ("points", ofDouble entry.points)]

/-- The places on a podium. -/
def ofPodium (podium : List PodiumEntry) : Json :=
  .list (podium.map ofEntry)

/-- What the dashboards see of an overlay. -/
def ofOverlay (overlay : Overlay) : Json :=
  .object [("first_blood", ofBanner overlay.banner), ("pyro", .string overlay.pyro.name),
    ("podium", ofPodium overlay.podium)]

/-- The end of the game with its podium. -/
def ofGameOver (tick : Tick) (podium : List PodiumEntry) : Json :=
  .object [("tick", .int tick.toInt), ("podium", ofPodium podium)]

end Json

/-- The names on a banner that is shown. -/
def Banner.names : Banner → Option (String × String)
  | .idle => none
  | .shown service team _ => some (service, team)

/-- The teams on a podium with their names. -/
def podiumNames (podium : List PodiumEntry) : List (TeamId × Option String) :=
  podium.map fun entry => (entry.teamId, entry.name)

section Visibility

variable {text rest : List Char} {parts : List (List Char)}

/-- Visible texts behind each other are visible. -/
theorem Visible.append (visible : Visible text) (others : Visible rest) : Visible (text ++ rest) :=
  List.forall_mem_append.mpr ⟨visible, others⟩

/-- A visible text with one more visible character in front is visible. -/
theorem Visible.cons {c : Char} (visible : ¬ c < ' ') (others : Visible rest) :
    Visible (c :: rest) :=
  List.forall_mem_cons.mpr ⟨visible, others⟩

/-- Controls are escaped, and their escapes are visible. -/
theorem visible_escapeChar (c : Char) : Visible (escapeChar c) := by
  -- A control is written with six characters, the last two being digits of its code.
  have digits : ∀ digit < 16, ¬ hexDigit digit < ' ' := by decide
  unfold escapeChar Visible
  split
  case h_8 =>
    split
    · rename_i control
      have small : c.toNat < 32 := control
      have first := digits (c.toNat / 16) (by omega)
      have second := digits (c.toNat % 16) (by omega)
      simp only [List.forall_mem_cons]
      exact ⟨by decide, by decide, by decide, by decide, first, second, List.forall_mem_nil _⟩
    · rename_i visible
      exact List.forall_mem_singleton.mpr visible
  all_goals exact Visible.cons (by decide) (Visible.cons (by decide) (List.forall_mem_nil _))

/-- A string is visible between its quotes, whatever is in it. -/
theorem visible_quote (text : List Char) : Visible (quote text) := by
  -- Character by character, what stands between the quotes is visible.
  have inside : Visible (text.flatMap escapeChar) := by
    intro d member
    obtain ⟨c, _, written⟩ := List.mem_flatMap.mp member
    exact visible_escapeChar c d written
  exact .cons (by decide) (inside.append (List.forall_mem_singleton.mpr (by decide)))

/-- The word `null` is visible. -/
theorem visible_null : Visible "null".toList := by
  show Visible ['n', 'u', 'l', 'l']
  exact .cons (by decide) (.cons (by decide) (.cons (by decide) (.cons (by decide)
    (List.forall_mem_nil _))))

/-- No digit is a control. -/
theorem not_control_of_isDigit {c : Char} (digit : c.isDigit = true) : ¬ c < ' ' := by
  have small : 48 ≤ c.toNat := (Char.isDigit_iff_toNat.mp digit).1
  exact Nat.not_lt.mpr (Nat.le_trans (by decide) small)

/-- A number is visible. -/
theorem visible_natDigits (value : Nat) : Visible (natDigits value) :=
  fun _ member => not_control_of_isDigit (isDigit_of_mem_natDigits member)

/-- An integer is visible, with its sign. -/
theorem visible_intDigits (value : Int) : Visible (intDigits value) := by
  cases value with
  | ofNat value => exact visible_natDigits value
  | negSucc value => exact .cons (by decide) (visible_natDigits (value + 1))

/-- No character of a double is a control. -/
theorem not_control_of_figure {c : Char} (figure : Figure c) : ¬ c < ' ' := by
  rcases figure with digit | rfl | rfl | rfl | rfl
  · exact not_control_of_isDigit digit
  all_goals decide

/-- A double is visible. -/
theorem visible_floatText (x : Float) : Visible (floatText x) := by
  -- A finite double is written with figures, and any other one as `null`.
  cases finite : x.isFinite with
  | false =>
    have null : floatText x = "null".toList := by simp [floatText, finite]
    exact null ▸ visible_null
  | true =>
    obtain ⟨body, ⟨_, all⟩, written⟩ := figures_floatText finite
    have visible : Visible body := fun c member => not_control_of_figure (all c member)
    rcases written with plain | minus
    · exact plain ▸ visible
    · exact minus ▸ .cons (by decide) visible

/-- Visible parts are visible with commas between them. -/
theorem visible_commaSeparated (visible : ∀ part ∈ parts, Visible part) :
    Visible (commaSeparated parts) := by
  -- Each part behind the first one has a comma in front of it.
  cases parts with
  | nil => exact List.forall_mem_nil _
  | cons part parts =>
    obtain ⟨own, others⟩ := List.forall_mem_cons.mp visible
    rw [commaSeparated_cons]
    refine own.append fun c member => ?_
    obtain ⟨part, listed, member⟩ := List.mem_flatMap.mp member
    exact Visible.cons (by decide) (others part listed) c member

/-- A member with a visible value is visible. -/
theorem visible_writeMember {name : String} (visible : Visible text) :
    Visible (writeMember name text) :=
  (visible_quote _).append (.cons (by decide) visible)

/-- An object with visible members is visible. -/
theorem visible_writeObject (visible : ∀ part ∈ parts, Visible part) :
    Visible (writeObject parts) :=
  .cons (by decide) ((visible_commaSeparated visible).append
    (List.forall_mem_singleton.mpr (by decide)))

/-- A place on the podium is visible as a document. -/
theorem visible_entry (entry : PodiumEntry) : Visible entry.write := by
  -- A team without a name has `null` in its place.
  have name : Visible ((Codec.optional .string).write entry.name) := by
    cases entry.name with
    | none => exact visible_null
    | some name => exact visible_quote _
  refine visible_writeObject (List.forall_mem_cons.mpr ⟨visible_writeMember (visible_intDigits _),
    List.forall_mem_cons.mpr ⟨visible_writeMember name,
      List.forall_mem_singleton.mpr (visible_writeMember (visible_floatText _))⟩⟩)

/-- A podium is visible as a document. -/
theorem visible_writePodium (podium : List PodiumEntry) : Visible (writePodium podium) :=
  .cons (by decide) ((visible_commaSeparated (List.forall_mem_map.mpr fun entry _ =>
    visible_entry entry)).append (List.forall_mem_singleton.mpr (by decide)))

/-- The names of a service and a team are visible as a document. -/
theorem visible_names (service team : String) : Visible (writeObject
    [writeMember "service" (quote service.toList), writeMember "team" (quote team.toList)]) :=
  visible_writeObject (List.forall_mem_cons.mpr ⟨visible_writeMember (visible_quote _),
    List.forall_mem_singleton.mpr (visible_writeMember (visible_quote _))⟩)

/-- An overlay is visible as a document. -/
theorem visible_overlay (overlay : Overlay) : Visible overlay.write := by
  -- Without a banner there is `null` in its place.
  have banner : Visible (Overlay.writeBanner overlay.banner) := by
    cases overlay.banner with
    | idle => exact visible_null
    | shown service team => exact visible_names service team
  exact visible_writeObject (List.forall_mem_cons.mpr ⟨visible_writeMember banner,
    List.forall_mem_cons.mpr ⟨visible_writeMember (visible_quote _),
      List.forall_mem_singleton.mpr (visible_writeMember (visible_writePodium _))⟩⟩)

/-- The end of a game is visible as a document. -/
theorem visible_gameOver (tick : Tick) (podium : List PodiumEntry) : Visible (writeObject
    [writeMember "tick" (intDigits tick.toInt), writeMember "podium" (writePodium podium)]) :=
  visible_writeObject (List.forall_mem_cons.mpr ⟨visible_writeMember (visible_intDigits _),
    List.forall_mem_singleton.mpr (visible_writeMember (visible_writePodium podium))⟩)

end Visibility

section Lines

/-- Visible data stays as it is behind the mark of its only line. -/
theorem dataLines_visible {data : List Char} (visible : Visible data) :
    dataLines data = "data: ".toList ++ data := by
  -- The breaks of lines are controls, and only behind these a line would be marked again.
  have same : ∀ {data : List Char}, Visible data → (data.flatMap fun c =>
      if c = '\n' ∨ c = '\r' then c :: "data: ".toList else [c]) = data := by
    intro data visible
    induction data with
    | nil => rfl
    | cons c data ih =>
      obtain ⟨own, others⟩ := List.forall_mem_cons.mp visible
      have inside : ¬ (c = '\n' ∨ c = '\r') := by
        rintro (rfl | rfl) <;> exact own (by decide)
      rw [List.flatMap_cons, if_neg inside, ih others]
      rfl
  exact congrArg ("data: ".toList ++ ·) (same visible)

/-- An event of a document without controls is a single line. -/
theorem ServerEvent.singleLine_ofDocument {name : String} {document : List Char}
    (visible : Visible document) (some : document ≠ []) :
    (ServerEvent.ofDocument name document).SingleLine name := by
  -- The data is not empty, so the chunk has a line for it, and only one.
  have data : (ServerEvent.ofDocument name document).data.toList = document :=
    String.toList_ofList
  have full : (ServerEvent.ofDocument name document).data.isEmpty = false := by
    rw [Bool.eq_false_iff]
    intro empty
    rw [String.isEmpty_iff.mp empty] at data
    exact some data.symm
  refine ⟨by rw [data]; exact visible, ?_⟩
  rw [ServerEvent.chunk, full, data, if_neg Bool.false_ne_true, dataLines_visible visible]
  simp [ServerEvent.ofDocument]

end Lines

section Documents

/-- The text of a double is one of the value that it is read as. -/
theorem Json.writes_double {x : Float} (plain : WrittenPlainly x) :
    Json.Writes 0 (floatText x) (.ofDouble x) := by
  -- A double that is not finite is written as `null`, and read as that.
  cases finite : x.isFinite with
  | false =>
    have null : floatText x = "null".toList := by simp [floatText, finite]
    have value : Json.ofDouble x = .null := by
      rw [Json.ofDouble, null]
      rfl
    rw [null, value]
    exact Json.writes_null
  | true =>
    obtain ⟨literal, read⟩ := plain finite
    have value : Json.ofDouble x = .ofNumeral literal := by rw [Json.ofDouble, read]
    rw [value]
    exact Json.writes_numeral read

/-- The digits of a word are a text of the integer that it stands for. -/
theorem Json.writes_int64 (number : Int64) :
    Json.Writes 0 (intDigits number.toInt) (.int number.toInt) := by
  have low := Int64.le_toInt number
  have high := Int64.toInt_lt number
  exact Json.writes_int (by omega) (by omega)

/-- A name, or `null` where there is none, is a text of itself as a value. -/
theorem Json.writes_name (name : Option String) :
    Json.Writes 0 ((Codec.optional .string).write name) (.ofName name) := by
  cases name with
  | none => exact Json.writes_null
  | some name => exact Json.writes_string name

/-- The names of a service and a team are written as an object of two strings. -/
theorem Json.writes_names (service team : String) : Json.Writes 1 (writeObject
    [writeMember "service" (quote service.toList), writeMember "team" (quote team.toList)])
    (.ofNames service team) :=
  Json.writes_object [("service", _, .string service), ("team", _, .string team)]
    (List.forall_mem_cons.mpr ⟨Json.writes_string service,
      List.forall_mem_singleton.mpr (Json.writes_string team)⟩)

/-- A banner is written as its names, or as `null`. -/
theorem Json.writes_banner (banner : Banner) :
    Json.Writes 1 (Overlay.writeBanner banner) (.ofBanner banner) := by
  cases banner with
  | idle => exact Json.writes_null.deeper (by decide)
  | shown service team => exact Json.writes_names service team

/-- A place on the podium is written as an object of three members. -/
theorem Json.writes_entry {entry : PodiumEntry} (plain : WrittenPlainly entry.points) :
    Json.Writes 1 entry.write (.ofEntry entry) :=
  -- Each member is written on its own, the points as a double.
  Json.writes_object [("team_id", _, .int entry.teamId.toInt),
      ("name", _, .ofName entry.name), ("points", _, .ofDouble entry.points)]
    (List.forall_mem_cons.mpr ⟨Json.writes_int64 entry.teamId,
      List.forall_mem_cons.mpr ⟨Json.writes_name entry.name,
        List.forall_mem_singleton.mpr (Json.writes_double plain)⟩⟩)

/-- A podium is written as the list of its places. -/
theorem Json.writes_podium {podium : List PodiumEntry} (plain : PlainPoints podium) :
    Json.Writes 2 (writePodium podium) (.ofPodium podium) :=
  Json.writes_list fun entry member => Json.writes_entry (plain entry member)

/-- An overlay is written as an object of its banner, its animation and its podium. -/
theorem Json.writes_overlay {overlay : Overlay} (plain : PlainPoints overlay.podium) :
    Json.Writes 3 overlay.write (.ofOverlay overlay) :=
  -- The members are less deep than the places on the podium, or as deep.
  Json.writes_object [("first_blood", _, .ofBanner overlay.banner),
      ("pyro", _, .string overlay.pyro.name), ("podium", _, .ofPodium overlay.podium)]
    (List.forall_mem_cons.mpr ⟨(Json.writes_banner overlay.banner).deeper (by decide),
      List.forall_mem_cons.mpr ⟨(Json.writes_string overlay.pyro.name).deeper (by decide),
        List.forall_mem_singleton.mpr (Json.writes_podium plain)⟩⟩)

/-- The end of a game is written as an object of its tick and its podium. -/
theorem Json.writes_gameOver {tick : Tick} {podium : List PodiumEntry} (plain : PlainPoints podium) :
    Json.Writes 3 (writeObject [writeMember "tick" (intDigits tick.toInt),
      writeMember "podium" (writePodium podium)]) (.ofGameOver tick podium) :=
  Json.writes_object [("tick", _, .int tick.toInt), ("podium", _, .ofPodium podium)]
    (List.forall_mem_cons.mpr ⟨(Json.writes_int64 tick).deeper (by decide),
      List.forall_mem_singleton.mpr (Json.writes_podium plain)⟩)

/-- The document that is the data of an event is decoded to what it writes. -/
theorem ServerEvent.ofText_ofDocument {levels : Nat} {document : List Char} {value : Json}
    (name : String) (writes : Json.Writes levels document value) (shallow : levels ≤ nestingLimit) :
    Codec.json.ofText (ServerEvent.ofDocument name document).data = .ok value := by
  rw [Codec.ofText, ServerEvent.ofDocument, String.toList_ofList]
  exact writes.decode shallow

end Documents

section Differences

/-- Names that are read alike are the same. -/
theorem Json.ofName_inj {one two : Option String} (same : Json.ofName one = Json.ofName two) :
    one = two := by
  cases one <;> cases two <;> simp_all [Json.ofName]

/-- Pairs of names that are read alike are the same. -/
theorem Json.ofNames_inj {service team other else' : String}
    (same : Json.ofNames service team = Json.ofNames other else') :
    service = other ∧ team = else' := by
  simpa [Json.ofNames] using same

/-- Banners that are read alike have the same names. -/
theorem Json.names_of_ofBanner {one two : Banner} (same : Json.ofBanner one = Json.ofBanner two) :
    one.names = two.names := by
  cases one <;> cases two <;> simp_all [Json.ofBanner, Json.ofNames, Banner.names]

/-- Stages of the animation with the same name are the same. -/
theorem PyroStage.name_inj {one two : PyroStage} (same : one.name = two.name) : one = two := by
  cases one <;> cases two <;> first | rfl | exact absurd same (by decide)

/-- Places that are read alike are those of teams of one number and one name. -/
theorem Json.podiumNames_of_ofPodium {one two : List PodiumEntry}
    (same : Json.ofPodium one = Json.ofPodium two) : podiumNames one = podiumNames two := by
  -- The induction goes along both podiums, place by place.
  replace same : one.map Json.ofEntry = two.map Json.ofEntry := Json.list.inj same
  unfold podiumNames
  induction one generalizing two with
  | nil =>
    rw [List.map_nil, eq_comm, List.map_eq_nil_iff] at same
    rw [same]
  | cons first others ih =>
    cases two with
    | nil => cases same
    | cons second behind =>
      obtain ⟨own, rest⟩ := List.cons.inj same
      obtain ⟨id, name⟩ : first.teamId.toInt = second.teamId.toInt ∧
          Json.ofName first.name = Json.ofName second.name := by
        simp only [Json.ofEntry, Json.object.injEq, List.cons.injEq, Prod.mk.injEq,
          Json.int.injEq] at own
        exact ⟨own.1.2, own.2.1.2⟩
      rw [List.map_cons, List.map_cons, ih rest, Int64.toInt_inj.mp id, Json.ofName_inj name]

end Differences

section Whole

/--
Whatever names an event tells of, its data is one line without controls.

Read as a JSON value it has the very names in their places, as long as the points on a podium are
written plainly. Events of other names thus have other data.
-/
theorem payloads_keep_names :
    (∀ service team, (ServerEvent.firstBlood service team).SingleLine "first_blood" ∧
      Codec.json.ofText (ServerEvent.firstBlood service team).data =
        .ok (.ofNames service team)) ∧
    (∀ overlay, (ServerEvent.overlay overlay).SingleLine "overlay" ∧
      (PlainPoints overlay.podium →
        Codec.json.ofText (ServerEvent.overlay overlay).data = .ok (.ofOverlay overlay))) ∧
    (∀ tick podium, (ServerEvent.gameOver tick podium).SingleLine "game_over" ∧
      (PlainPoints podium → Codec.json.ofText (ServerEvent.gameOver tick podium).data =
        .ok (.ofGameOver tick podium))) ∧
    (∀ service team other others,
      (ServerEvent.firstBlood service team).data = (ServerEvent.firstBlood other others).data →
        service = other ∧ team = others) ∧
    (∀ one two : Overlay, PlainPoints one.podium → PlainPoints two.podium →
      (ServerEvent.overlay one).data = (ServerEvent.overlay two).data →
        one.banner.names = two.banner.names ∧ one.pyro = two.pyro ∧
          podiumNames one.podium = podiumNames two.podium) ∧
    (∀ tick later one two, PlainPoints one → PlainPoints two →
      (ServerEvent.gameOver tick one).data = (ServerEvent.gameOver later two).data →
        tick = later ∧ podiumNames one = podiumNames two) := by
  have names : ∀ service team, Codec.json.ofText (ServerEvent.firstBlood service team).data =
      .ok (.ofNames service team) := fun service team =>
    ServerEvent.ofText_ofDocument _ (Json.writes_names service team) (by decide)
  have overlays : ∀ overlay : Overlay, PlainPoints overlay.podium →
      Codec.json.ofText (ServerEvent.overlay overlay).data = .ok (.ofOverlay overlay) :=
    fun overlay plain => ServerEvent.ofText_ofDocument _ (Json.writes_overlay plain) (by decide)
  have podiums : ∀ tick podium, PlainPoints podium →
      Codec.json.ofText (ServerEvent.gameOver tick podium).data = .ok (.ofGameOver tick podium) :=
    fun tick podium plain => ServerEvent.ofText_ofDocument _ (Json.writes_gameOver plain) (by decide)
  refine ⟨fun service team => ⟨ServerEvent.singleLine_ofDocument (visible_names _ _) nofun,
      names service team⟩,
    fun overlay => ⟨ServerEvent.singleLine_ofDocument (visible_overlay overlay) nofun,
      overlays overlay⟩,
    fun tick podium => ⟨ServerEvent.singleLine_ofDocument (visible_gameOver tick podium) nofun,
      podiums tick podium⟩, ?_, ?_, ?_⟩
  -- What is read of one text is one value, so the values tell as much as the texts.
  · intro service team other others same
    have read := names service team
    rw [same, names other others, Except.ok.injEq] at read
    exact Json.ofNames_inj read.symm
  · intro one two plain plainToo same
    have read := overlays one plain
    rw [same, overlays two plainToo, Except.ok.injEq] at read
    simp only [Json.ofOverlay, Json.object.injEq, List.cons.injEq, Prod.mk.injEq, true_and,
      Json.string.injEq, and_true] at read
    obtain ⟨banner, stage, podium⟩ := read
    exact ⟨Json.names_of_ofBanner banner.symm, PyroStage.name_inj stage.symm,
      Json.podiumNames_of_ofPodium podium.symm⟩
  · intro tick later one two plain plainToo same
    have read := podiums tick one plain
    rw [same, podiums later two plainToo, Except.ok.injEq] at read
    simp only [Json.ofGameOver, Json.object.injEq, List.cons.injEq, Prod.mk.injEq, true_and,
      Json.int.injEq, and_true] at read
    exact ⟨(Int64.toInt_inj.mp read.1).symm, Json.podiumNames_of_ofPodium read.2.symm⟩

/-- A banner and a podium with line breaks, quotes, backslashes and a control in their names. -/
def Sample.brokenNames (service : String) : Overlay :=
  ⟨.shown service "\"\\\x00Zoë" 1, 1, .hidden, 0, [⟨7, some "a\n\nb", 12.5⟩, ⟨8, none, 3⟩]⟩

/-- Names that would end a data line or a string early are read back from a single line. -/
theorem broken_names_kept :
    (ServerEvent.overlay (Sample.brokenNames "web\ndata: x")).data =
      "\x7b\"first_blood\":\x7b\"service\":\"web\\ndata: x\",\"team\":\"\\\"\\\\\\u0000Zoë\"\x7d," ++
        "\"pyro\":\"hidden\",\"podium\":[\x7b\"team_id\":7,\"name\":\"a\\n\\nb\",\"points\":12.5\x7d," ++
        "\x7b\"team_id\":8,\"name\":null,\"points\":3.0\x7d]\x7d" ∧
    PlainPoints (Sample.brokenNames "web\ndata: x").podium ∧
    (ServerEvent.overlay (Sample.brokenNames "web\ndata: x")).SingleLine "overlay" ∧
    Codec.json.ofText (ServerEvent.overlay (Sample.brokenNames "web\ndata: x")).data =
      .ok (.ofOverlay (Sample.brokenNames "web\ndata: x")) ∧
    (ServerEvent.overlay (Sample.brokenNames "web\ndata: x")).data ≠
      (ServerEvent.overlay (Sample.brokenNames "web\\ndata: x")).data := by
  -- The names have a break of a line, a quote, a backslash, a control and a letter beyond the usual
  -- ones.
  have plain : ∀ service, PlainPoints (Sample.brokenNames service).podium := by
    intro service
    exact List.forall_mem_cons.mpr ⟨fun _ => ⟨⟨false, 125, -1, false⟩, by decide +kernel⟩,
      List.forall_mem_singleton.mpr fun _ => ⟨⟨false, 30, -1, false⟩, by decide +kernel⟩⟩
  obtain ⟨_, overlays, _, _, different, _⟩ := payloads_keep_names
  obtain ⟨line, read⟩ := overlays (Sample.brokenNames "web\ndata: x")
  refine ⟨by decide +kernel, plain _, line, read (plain _), fun same => ?_⟩
  have banners := (different _ _ (plain _) (plain _) same).1
  exact absurd banners (by decide)

end Whole

end Scoreboard
