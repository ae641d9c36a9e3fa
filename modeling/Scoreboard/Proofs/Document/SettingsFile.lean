import Scoreboard.Proofs.Json.Soundness
import Scoreboard.Settings

/-! The settings file: which texts are one, and which settings come of it. -/

namespace Scoreboard

/-- A text is a string between quotes. -/
def QuotedText (text : List Char) (value : String) : Prop :=
  ∃ body, text = '"' :: (body ++ ['"']) ∧ Spells body value.toList

/-- A text is a truth value. -/
def FlagText (text : List Char) (value : Bool) : Prop :=
  text = Codec.bool.write value

/-- A text is the plain literal of a number that is not negative. -/
def CountText (text : List Char) (value : UInt64) : Prop :=
  text = natDigits value.toNat

/-- Texts say what a setting is: one text is that of its value, none or `null` means no value. -/
def Says {α : Type} (Text : List Char → α → Prop) (texts : List (List Char)) : Option α → Prop
  | none => texts = [] ∨ texts = ["null".toList]
  | some value => ∃ text, texts = [text] ∧ Text text value

/-- The texts for the display settings say what these are, each for itself. -/
structure DisplayFile.SaidBy (file : DisplayFile)
    (history sums images notifications : List (List Char)) : Prop where
  showHistory : Says FlagText history file.showHistory
  showOnlySums : Says FlagText sums file.showOnlySums
  showImages : Says FlagText images file.showImages
  showNotifications : Says FlagText notifications file.showNotifications

/-- The texts of display settings: objects, and lists with one element for each setting. -/
inductive DisplayFile.Text (file : DisplayFile) : List Char → Prop
  | object (gap : Blanks) {members : List Member} {entries : List (String × List Char)}
      (names : ∀ member ∈ members, StringBody member.name)
      (values : ∀ member ∈ members, ValueText member.content.value)
      (states : List.Forall₂ Member.States members entries)
      (said : file.SaidBy (occurrences entries "show_history") (occurrences entries "show_only_sums")
        (occurrences entries "show_images") (occurrences entries "show_notifications")) :
      Text file (objectText gap members)
  | list (gap : Blanks) {elements : List Element} {history sums images notifications : List Char}
      (values : ∀ element ∈ elements, ValueText element.value)
      (inOrder : elements.map Element.value = [history, sums, images, notifications])
      (said : file.SaidBy [history] [sums] [images] [notifications]) :
      Text file (listText gap elements)

/-- Of display settings there is one text at most, and none leaves all of them out. -/
def DisplayFile.SaidIn (file : DisplayFile) (texts : List (List Char)) : Prop :=
  texts = [] ∧ file = ⟨none, none, none, none⟩ ∨ ∃ text, texts = [text] ∧ file.Text text

/-- The texts for the settings of a file say what these are, each for itself. -/
structure SettingsFile.SaidBy (file : SettingsFile)
    (url timeout interval display : List (List Char)) : Prop where
  apiUrl : Says QuotedText url file.apiUrl
  requestTimeout : Says CountText timeout file.requestTimeout
  notificationInterval : Says CountText interval file.notificationInterval
  display : file.display.SaidIn display

/--
The texts of a settings file: objects with members of any names in any order, and lists.

A list has its elements in the order of the settings, and may stop in front of the display settings.
-/
inductive SettingsFile.Text (file : SettingsFile) : List Char → Prop
  | object (document : ObjectDocument) {entries : List (String × List Char)}
      (states : List.Forall₂ Member.States document.members entries)
      (said : file.SaidBy (occurrences entries "api_url") (occurrences entries "request_timeout_ms")
        (occurrences entries "notification_interval_ms") (occurrences entries "display")) :
      Text file document.text
  | list (document : ListDocument) {url timeout interval : List Char} {display : List (List Char)}
      (inOrder : document.elements.map Element.value = url :: timeout :: interval :: display)
      (said : file.SaidBy [url] [timeout] [interval] display) : Text file document.text

/-- Two texts of display settings: the same, or objects with the same members of their four names. -/
inductive SameDisplay : List Char → List Char → Prop
  | refl (text : List Char) : SameDisplay text text
  | object {first second : ObjectDocument} {entries others : List (String × List Char)}
      (states : List.Forall₂ Member.States first.members entries)
      (statesOther : List.Forall₂ Member.States second.members others)
      (same : ∀ name ∈ DisplayFile.record.fields.names,
        occurrences entries name = occurrences others name) :
      SameDisplay (objectText first.gap first.members) (objectText second.gap second.members)

/-- The members of two objects are the same as far as they are settings, in whatever order. -/
structure SameSettings (entries others : List (String × List Char)) : Prop where
  plain : ∀ name ∈ ["api_url", "request_timeout_ms", "notification_interval_ms"],
    occurrences entries name = occurrences others name
  display : List.Forall₂ SameDisplay (occurrences entries "display") (occurrences others "display")

section Members

variable {α : Type} {αs : List Type} {codec : Codec α} {Text : List Char → α → Prop} {room : Nat}
  {name : String} {fields : Fields αs}

/-- A value that may be `null` is taken from a text that says what it is. -/
theorem Codec.Exact.optional_stated (whole : codec.Exact fun _ => Text)
    (refuses : ∀ value, ¬ Text "null".toList value) :
    codec.optional.Exact fun _ text => Says Text [text] := by
  -- The word `null` says that there is no value, and is no text of one.
  have optional := whole.toLocal.optional_exact fun taken => refuses _ ((whole.takes .null).mp taken)
  refine ⟨optional.toLocal, fun {room text value} written => (optional.takes written).trans ?_⟩
  cases value with
  | none => simp [Says]
  | some value => simp [Says, whole.takes written]

/-- A member that may be left out is given by texts that say what it is. -/
theorem gives_omissible_iff (whole : codec.optional.Exact fun _ text => Says Text [text])
    {texts : List (List Char)} (written : ∀ text ∈ texts, ValueText text) {value : Option α} :
    (Field.omissible name codec).Gives room texts value ↔ Says Text texts value := by
  -- The texts under a name are none, one or more, and more than one say nothing.
  match texts with
  | [] => cases value <;> simp [Field.Gives, Field.omissible, Says]
  | [text] => exact whole.takes (written text (List.mem_singleton_self text))
  | _ :: _ :: _ => cases value <;> simp [Field.Gives, Says]

/-- In a list such a member cannot be left out, and the others have the texts behind its own. -/
theorem said_of_fit (whole : codec.optional.Exact fun _ text => Says Text [text])
    {texts : List (List Char)} (written : ∀ text ∈ texts, ValueText text) {value : Option α}
    {values : Tuple αs}
    (fits : (Fields.cons (.omissible name codec) fields).Fit room texts (value, values)) :
    ∃ text others, texts = text :: others ∧ Says Text [text] value ∧
      (∀ text ∈ others, ValueText text) ∧ fields.Fit room others values := by
  -- An empty list of texts fits no member.
  cases texts with
  | nil => cases fits.1
  | cons text others =>
    obtain ⟨own, written⟩ := List.forall_mem_cons.mp written
    exact ⟨text, others, rfl, (whole.takes own).mp fits.1, written, fits.2⟩

/-- A member with a default has it where it is left out. -/
theorem gives_defaulted_iff {default value : α} {texts : List (List Char)} :
    (Field.defaulted name codec default).Gives room texts value ↔
      texts = [] ∧ value = default ∨ ∃ text, texts = [text] ∧ codec.Takes room text value := by
  -- The texts under a name are none, one or more, and only none lets the default in.
  match texts with
  | [] => simp [Field.Gives, Field.defaulted, eq_comm]
  | [text] => simp [Field.Gives, Field.defaulted]
  | _ :: _ :: _ => simp [Field.Gives]

/-- At the end of a list it is left out as in an object. -/
theorem fit_defaulted_iff {default value : α} {texts : List (List Char)} :
    (Fields.cons (.defaulted name codec default) .nil).Fit room texts (value, ()) ↔
      (Field.defaulted name codec default).Gives room texts value := by
  match texts with
  | [] | [_] | _ :: _ :: _ => simp [Fields.Fit, Field.Gives, Field.defaulted]

/-- A string that may be `null` is taken from a text that says what it is. -/
theorem quotedText_exact : Codec.string.optional.Exact fun _ text => Says QuotedText [text] := by
  refine Codec.string_exact.optional_stated fun value said => ?_
  obtain ⟨body, same, _⟩ := said
  cases same

/-- A flag that may be `null` is taken from a text that says what it is. -/
theorem flagText_exact : Codec.bool.optional.Exact fun _ text => Says FlagText [text] := by
  refine Codec.bool_exact.optional_stated fun value => ?_
  cases value <;> exact nofun

/-- A count that may be `null` is taken from a text that says what it is. -/
theorem countText_exact : Codec.uint64.optional.Exact fun _ text => Says CountText [text] := by
  refine Codec.uint64_exact.optional_stated fun value same => ?_
  have digit := isDigit_of_mem_natDigits (same ▸ List.mem_cons_self : 'n' ∈ natDigits value.toNat)
  cases digit

end Members

section Display

variable {file : DisplayFile} {room : Nat}

/-- The members of the display settings are read from their own texts. -/
theorem DisplayFile.fields_local : DisplayFile.record.fields.Local :=
  ⟨flagText_exact.toLocal, flagText_exact.toLocal, flagText_exact.toLocal, flagText_exact.toLocal,
    trivial⟩

/-- The members of the display settings have different names. -/
theorem DisplayFile.names_nodup : DisplayFile.record.fields.names.Nodup := by
  decide

/-- The members of the display settings are values. -/
theorem DisplayFile.fields_sound : DisplayFile.record.fields.Sound :=
  ⟨Codec.bool_sound.optional, Codec.bool_sound.optional, Codec.bool_sound.optional,
    Codec.bool_sound.optional, trivial⟩

/-- The texts under the four names say what the display settings are. -/
theorem DisplayFile.give_iff {texts : String → List (List Char)}
    (written : ∀ name, ∀ text ∈ texts name, ValueText text) :
    (∃ values, DisplayFile.record.fields.Give room texts values ∧
      DisplayFile.record.make values = file) ↔
    file.SaidBy (texts "show_history") (texts "show_only_sums") (texts "show_images")
      (texts "show_notifications") := by
  -- All four members are flags that may be left out.
  have flag := fun name => @gives_omissible_iff _ _ _ room name flagText_exact _ (written name)
  constructor
  · rintro ⟨⟨history, sums, images, notifications, ⟨⟩⟩, given, rfl⟩
    obtain ⟨own, second, third, fourth, -⟩ := given
    exact ⟨(flag _).mp own, (flag _).mp second, (flag _).mp third, (flag _).mp fourth⟩
  · intro said
    exact ⟨DisplayFile.record.parts file, ⟨(flag _).mpr said.showHistory,
      (flag _).mpr said.showOnlySums, (flag _).mpr said.showImages,
      (flag _).mpr said.showNotifications, trivial⟩, rfl⟩

/-- The texts of four elements say what the display settings are. -/
theorem DisplayFile.fit_iff {texts : List (List Char)} (written : ∀ text ∈ texts, ValueText text) :
    (∃ values, DisplayFile.record.fields.Fit room texts values ∧
      DisplayFile.record.make values = file) ↔
    ∃ history sums images notifications, texts = [history, sums, images, notifications] ∧
      file.SaidBy [history] [sums] [images] [notifications] := by
  -- In a list the four flags stand in a row, and none of them can be left out.
  constructor
  · rintro ⟨⟨_, _, _, _, ⟨⟩⟩, fits, rfl⟩
    obtain ⟨history, texts, rfl, own, written, fits⟩ := said_of_fit flagText_exact written fits
    obtain ⟨sums, texts, rfl, second, written, fits⟩ := said_of_fit flagText_exact written fits
    obtain ⟨images, texts, rfl, third, written, fits⟩ := said_of_fit flagText_exact written fits
    obtain ⟨notifications, texts, rfl, fourth, _, fits⟩ := said_of_fit flagText_exact written fits
    obtain rfl : texts = [] := fits
    exact ⟨history, sums, images, notifications, rfl, own, second, third, fourth⟩
  · rintro ⟨history, sums, images, notifications, rfl, said⟩
    simp only [List.forall_mem_cons] at written
    obtain ⟨own, second, third, fourth, -⟩ := written
    exact ⟨DisplayFile.record.parts file, ⟨(flagText_exact.takes own).mpr said.showHistory,
      (flagText_exact.takes second).mpr said.showOnlySums,
      (flagText_exact.takes third).mpr said.showImages,
      (flagText_exact.takes fourth).mpr said.showNotifications, rfl⟩, rfl⟩

/-- Display settings are taken from their texts, and from no other ones. -/
theorem DisplayFile.takes_iff {text : List Char} (written : ValueText text) :
    DisplayFile.record.codec.Takes (room + 1) text file ↔ file.Text text := by
  -- A record is taken from an object or from a list, and a file is said by both.
  have whole := Record.exact DisplayFile.fields_local DisplayFile.names_nodup
  rw [whole.takes written]
  constructor
  · rintro ⟨less, same, object | list⟩
    · obtain ⟨gap, members, rfl, names, values, taken⟩ := object
      obtain ⟨entries, states, given⟩ := Record.takesMembers_iff_entries.mp taken
      exact .object gap names values states ((give_iff (valueText_of_states states values)).mp given)
    · obtain ⟨gap, elements, rfl, values, given⟩ := list
      obtain ⟨history, sums, images, notifications, inOrder, said⟩ :=
        (fit_iff (List.forall_mem_map.mpr values)).mp given
      exact .list gap values inOrder said
  · rintro (⟨gap, names, values, states, said⟩ | ⟨gap, values, inOrder, said⟩)
    · exact ⟨room, rfl, .inl ⟨gap, _, rfl, names, values, Record.takesMembers_iff_entries.mpr
        ⟨_, states, (give_iff (valueText_of_states states values)).mpr said⟩⟩⟩
    · exact ⟨room, rfl, .inr ⟨gap, _, rfl, values,
        (fit_iff (List.forall_mem_map.mpr values)).mpr ⟨_, _, _, _, inOrder, said⟩⟩⟩

/-- An object says the display settings that the texts under the four names say. -/
theorem DisplayFile.text_object_iff {document : ObjectDocument}
    {entries : List (String × List Char)}
    (states : List.Forall₂ Member.States document.members entries) :
    file.Text (objectText document.gap document.members) ↔
      file.SaidBy (occurrences entries "show_history") (occurrences entries "show_only_sums")
        (occurrences entries "show_images") (occurrences entries "show_notifications") := by
  -- What an object says depends on its entries alone, whatever blanks stand between them.
  have object := ValueText.object document.gap document.members document.names document.written
  have read := @Record.read_objectText _ _ 0 [] [] DisplayFile.record fields_local names_nodup
    document.gap document.members document.names document.written file
  rw [List.append_nil, Record.takesMembers_iff states, give_iff (document.valueText states)] at read
  exact (takes_iff object).symm.trans (read.trans (and_iff_right rfl))

/-- Texts with the same display settings say the same. -/
theorem SameDisplay.text_iff {first second : List Char} (same : SameDisplay first second) :
    file.Text first ↔ file.Text second := by
  -- The four names have the same texts in both objects.
  cases same with
  | refl => exact Iff.rfl
  | object states statesOther same =>
    rw [DisplayFile.text_object_iff states, DisplayFile.text_object_iff statesOther,
      same "show_history" (by decide), same "show_only_sums" (by decide),
      same "show_images" (by decide), same "show_notifications" (by decide)]

/-- One text of display settings stands for another one, and none for none. -/
theorem DisplayFile.saidIn_congr (file : DisplayFile) {first second : List (List Char)}
    (alike : List.Forall₂ SameDisplay first second) : file.SaidIn first ↔ file.SaidIn second := by
  cases alike with
  | nil => exact Iff.rfl
  | cons own alike => cases alike <;> simp [SaidIn, own.text_iff]

end Display

section Files

variable {file : SettingsFile}

/-- The members of the settings are read from their own texts. -/
theorem SettingsFile.fields_local : SettingsFile.record.fields.Local :=
  ⟨quotedText_exact.toLocal, countText_exact.toLocal, countText_exact.toLocal,
    (Record.exact DisplayFile.fields_local DisplayFile.names_nodup).toLocal, trivial⟩

/-- The members of the settings have different names. -/
theorem SettingsFile.names_nodup : SettingsFile.record.fields.names.Nodup := by
  decide

/-- The members of the settings are values. -/
theorem SettingsFile.fields_sound : SettingsFile.record.fields.Sound :=
  ⟨Codec.string_sound.optional, Codec.uint64_sound.optional, Codec.uint64_sound.optional,
    Record.sound DisplayFile.fields_sound, trivial⟩

/-- The member with the display settings is given by the texts that say what these are. -/
theorem gives_display_iff {room : Nat} {texts : List (List Char)}
    (written : ∀ text ∈ texts, ValueText text) {display : DisplayFile} :
    (Field.defaulted "display" DisplayFile.record.codec ⟨none, none, none, none⟩).Gives (room + 1)
      texts display ↔ display.SaidIn texts := by
  -- Display settings are missing, or stand in one text.
  rw [gives_defaulted_iff, DisplayFile.SaidIn]
  refine or_congr_right (exists_congr fun text => and_congr_right ?_)
  rintro rfl
  exact DisplayFile.takes_iff (written text (List.mem_singleton_self text))

/-- The texts under the four names say what the settings are. -/
theorem SettingsFile.give_iff {room : Nat} {texts : String → List (List Char)}
    (written : ∀ name, ∀ text ∈ texts name, ValueText text) :
    (∃ values, SettingsFile.record.fields.Give (room + 1) texts values ∧
      SettingsFile.record.make values = file) ↔
    file.SaidBy (texts "api_url") (texts "request_timeout_ms") (texts "notification_interval_ms")
      (texts "display") := by
  -- Three members may be left out, and so may the display settings, which then are the default.
  have count := fun name =>
    @gives_omissible_iff _ _ _ (room + 1) name countText_exact _ (written name)
  constructor
  · rintro ⟨⟨url, timeout, interval, display, ⟨⟩⟩, given, rfl⟩
    obtain ⟨own, second, third, fourth, -⟩ := given
    exact ⟨(gives_omissible_iff quotedText_exact (written _)).mp own, (count _).mp second,
      (count _).mp third, (gives_display_iff (written _)).mp fourth⟩
  · intro said
    exact ⟨SettingsFile.record.parts file,
      ⟨(gives_omissible_iff quotedText_exact (written _)).mpr said.apiUrl,
        (count _).mpr said.requestTimeout, (count _).mpr said.notificationInterval,
        (gives_display_iff (written _)).mpr said.display, trivial⟩, rfl⟩

/-- The texts of three elements, and of a fourth unless it is left out, say what the settings are. -/
theorem SettingsFile.fit_iff {room : Nat} {texts : List (List Char)}
    (written : ∀ text ∈ texts, ValueText text) :
    (∃ values, SettingsFile.record.fields.Fit (room + 1) texts values ∧
      SettingsFile.record.make values = file) ↔
    ∃ url timeout interval display, texts = url :: timeout :: interval :: display ∧
      file.SaidBy [url] [timeout] [interval] display := by
  -- In a list three members stand in a row, and the display settings behind them may be missing.
  constructor
  · rintro ⟨⟨_, _, _, _, ⟨⟩⟩, fits, rfl⟩
    obtain ⟨url, texts, rfl, own, written, fits⟩ := said_of_fit quotedText_exact written fits
    obtain ⟨timeout, texts, rfl, second, written, fits⟩ := said_of_fit countText_exact written fits
    obtain ⟨interval, display, rfl, third, written, fits⟩ := said_of_fit countText_exact written fits
    have fourth := (gives_display_iff written).mp (fit_defaulted_iff.mp fits)
    exact ⟨url, timeout, interval, display, rfl, own, second, third, fourth⟩
  · rintro ⟨url, timeout, interval, display, rfl, said⟩
    simp only [List.forall_mem_cons] at written
    obtain ⟨own, second, third, written⟩ := written
    exact ⟨SettingsFile.record.parts file, ⟨(quotedText_exact.takes own).mpr said.apiUrl,
      (countText_exact.takes second).mpr said.requestTimeout,
      (countText_exact.takes third).mpr said.notificationInterval,
      fit_defaulted_iff.mpr ((gives_display_iff written).mpr said.display)⟩, rfl⟩

/-- A text is decoded to the settings of a file exactly if it is a text of that file. -/
theorem SettingsFile.decode_iff {text : List Char} :
    SettingsFile.record.codec.decode text = .ok file ↔ file.Text text := by
  -- A file is decoded from an object or from a list, and settings are said by both.
  rw [Record.decode_iff fields_local names_nodup fields_sound]
  constructor
  · rintro (⟨document, entries, rfl, states, given⟩ | ⟨document, rfl, given⟩)
    · exact .object document states ((give_iff (document.valueText states)).mp given)
    · obtain ⟨url, timeout, interval, display, inOrder, said⟩ :=
        (fit_iff (List.forall_mem_map.mpr document.written)).mp given
      exact .list document inOrder said
  · rintro (⟨document, states, said⟩ | ⟨document, inOrder, said⟩)
    · exact .inl ⟨document, _, rfl, states, (give_iff (document.valueText states)).mpr said⟩
    · exact .inr ⟨document, rfl,
        (fit_iff (List.forall_mem_map.mpr document.written)).mpr ⟨_, _, _, _, inOrder, said⟩⟩

/-- An object is decoded to the settings that the texts under the four names say. -/
theorem SettingsFile.decode_object_iff {document : ObjectDocument}
    {entries : List (String × List Char)}
    (states : List.Forall₂ Member.States document.members entries) :
    SettingsFile.record.codec.decode document.text = .ok file ↔
      file.SaidBy (occurrences entries "api_url") (occurrences entries "request_timeout_ms")
        (occurrences entries "notification_interval_ms") (occurrences entries "display") :=
  (ObjectDocument.decode_iff fields_local names_nodup states).trans
    (give_iff (document.valueText states))

/-- What is said depends on the members that are settings only, and not on their order. -/
theorem SameSettings.saidBy_iff {entries others : List (String × List Char)}
    (same : SameSettings entries others) :
    file.SaidBy (occurrences entries "api_url") (occurrences entries "request_timeout_ms")
      (occurrences entries "notification_interval_ms") (occurrences entries "display") ↔
    file.SaidBy (occurrences others "api_url") (occurrences others "request_timeout_ms")
      (occurrences others "notification_interval_ms") (occurrences others "display") := by
  -- Three of the names have the same texts, and the display settings under the fourth say the same.
  rw [same.plain "api_url" (by decide), same.plain "request_timeout_ms" (by decide),
    same.plain "notification_interval_ms" (by decide)]
  have display := file.display.saidIn_congr same.display
  exact ⟨fun said => ⟨said.apiUrl, said.requestTimeout, said.notificationInterval,
      display.mp said.display⟩,
    fun said => ⟨said.apiUrl, said.requestTimeout, said.notificationInterval,
      display.mpr said.display⟩⟩

end Files

section Loading

variable {file : SettingsFile} {text : List Char}

/-- A text of settings is loaded as what it says, over the standard. -/
theorem Settings.load_of_text (stated : file.Text text) :
    Settings.load (some text) none = file.settings := by
  simp only [load, ofFile, SettingsFile.decode_iff.mpr stated, withUrl]

/-- Texts that are decoded to the same file are alike to the settings. -/
theorem Settings.ofFile_congr {other : List Char} (alike : ∀ file,
    SettingsFile.record.codec.decode text = .ok file ↔
      SettingsFile.record.codec.decode other = .ok file) :
    Settings.ofFile (some text) = Settings.ofFile (some other) := by
  -- Either both texts are decoded to one file, or none of them to any.
  cases decoded : SettingsFile.record.codec.decode text with
  | ok file => simp only [ofFile, decoded, (alike file).mp decoded]
  | error =>
    cases decodedOther : SettingsFile.record.codec.decode other with
    | error => simp only [ofFile, decoded, decodedOther]
    | ok file => cases decoded.symm.trans ((alike file).mpr decodedOther)

/-- A file that cannot be read, or whose text is not one of settings, leaves no trace. -/
theorem Settings.load_of_no_text {content : Option (List Char)}
    (silent : ∀ text ∈ content, ∀ file : SettingsFile, ¬ file.Text text) :
    Settings.load content none = .standard := by
  -- A text that was decoded would be one of settings.
  cases content with
  | none => rfl
  | some text =>
    cases decoded : SettingsFile.record.codec.decode text with
    | error => simp only [load, ofFile, decoded, withUrl]
    | ok file => exact absurd (SettingsFile.decode_iff.mp decoded) (silent text rfl file)

/-- An address from outside takes the place of the one in the settings, unless it is empty. -/
theorem Settings.withUrl_eq (settings : Settings) (url : Option String) :
    settings.withUrl url =
      { settings with apiBaseUrl := (url.filter (· ≠ "")).getD settings.apiBaseUrl } := by
  -- An address is missing, empty or neither.
  cases url with
  | none => rfl
  | some url =>
    by_cases empty : url = ""
    · subst empty
      rfl
    · have filled : url.isEmpty = false := by simpa [String.isEmpty_iff] using empty
      simp [withUrl, filled, Option.filter, empty]

/--
Settings are loaded from a file as a whole or not at all, and each is taken on its own.

A text that is decoded is one of the grammar, which says of each setting what its value is or that
it has none.
Otherwise all settings are built in.
-/
theorem settings_all_or_nothing (content : Option (List Char)) (url : Option String) :
    (∀ text file, SettingsFile.record.codec.decode text = .ok file ↔ file.Text text) ∧
    ((∀ text ∈ content, ∀ file : SettingsFile, ¬ file.Text text) →
      Settings.load content none = .standard) ∧
    (∀ text ∈ content, ∀ file : SettingsFile, file.Text text →
      Settings.load content none =
        let standard := Settings.standard
        let shown := standard.preferences
        { apiBaseUrl := file.apiUrl.getD standard.apiBaseUrl
          requestTimeout := file.requestTimeout.getD standard.requestTimeout
          notificationInterval := file.notificationInterval.getD standard.notificationInterval
          preferences :=
            -- The grammar of the file is settled first, and the settings follow from what it says.
            { showHistory := file.display.showHistory.getD shown.showHistory
              showOnlySums := file.display.showOnlySums.getD shown.showOnlySums
              showImages := file.display.showImages.getD shown.showImages
              showNotifications := file.display.showNotifications.getD shown.showNotifications } }) ∧
    (∀ (first second : ObjectDocument) {entries others : List (String × List Char)},
      List.Forall₂ Member.States first.members entries →
      List.Forall₂ Member.States second.members others → SameSettings entries others →
      Settings.load (some first.text) url = Settings.load (some second.text) url) ∧
    Settings.load content url =
      { Settings.load content none with
        apiBaseUrl := (url.filter (· ≠ "")).getD (Settings.load content none).apiBaseUrl } := by
  refine ⟨fun text file => SettingsFile.decode_iff, Settings.load_of_no_text, ?_, ?_,
    Settings.withUrl_eq _ url⟩
  · rintro text rfl file stated
    exact Settings.load_of_text stated
  · intro first second entries others states statesOther same
    have alike : ∀ file, SettingsFile.record.codec.decode first.text = .ok file ↔
        SettingsFile.record.codec.decode second.text = .ok file := fun file => by
      rw [SettingsFile.decode_object_iff states, SettingsFile.decode_object_iff statesOther,
        same.saidBy_iff]
    unfold Settings.load
    rw [Settings.ofFile_congr alike]

/-- A member of the wrong kind takes the members in front of it along. -/
example : Settings.load
    (some "\x7b\"api_url\":\"http://a/\",\"display\":\x7b\"show_images\":1\x7d\x7d".toList)
    (some "") = .standard := by
  decide +kernel

/-- Of a file that is silent about most settings the others are taken. -/
example : Settings.load
    (some "\x7b\"display\":\x7b\"show_images\":false\x7d,\"other\":[0]\x7d".toList)
    (some "http://b/") =
      { Settings.standard with
        apiBaseUrl := "http://b/", preferences := ⟨true, false, false, true⟩ } := by
  decide +kernel

end Loading

end Scoreboard
