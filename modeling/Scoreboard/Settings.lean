import Scoreboard.Preferences

/-! The settings of the relay: built-in ones, a file over them, the environment over both. -/

namespace Scoreboard

/-- The settings of the relay. -/
structure Settings where
  apiBaseUrl : String
  /-- How long a request may take, in milliseconds. -/
  requestTimeout : UInt64
  /-- The least distance between two notifications, in milliseconds. -/
  notificationInterval : UInt64
  preferences : Preferences
deriving DecidableEq, Repr

/-- The built-in settings. -/
def Settings.standard : Settings :=
  ⟨"http://localhost/api/", 10000, 12000, .standard⟩

/-- The display settings a file may hold. -/
structure DisplayFile where
  showHistory : Option Bool
  showOnlySums : Option Bool
  showImages : Option Bool
  showNotifications : Option Bool
deriving DecidableEq, Repr

/-- The members of the display settings of a file. -/
def DisplayFile.record :
    Record [Option Bool, Option Bool, Option Bool, Option Bool] DisplayFile where
  fields :=
    .cons (.omissible "show_history" .bool) <|
    .cons (.omissible "show_only_sums" .bool) <|
    .cons (.omissible "show_images" .bool) <|
    .cons (.omissible "show_notifications" .bool) .nil
  make := fun (history, sums, images, notifications, ()) => ⟨history, sums, images, notifications⟩
  parts d := (d.showHistory, d.showOnlySums, d.showImages, d.showNotifications, ())

/-- The settings a file may hold. -/
structure SettingsFile where
  apiUrl : Option String
  requestTimeout : Option UInt64
  notificationInterval : Option UInt64
  display : DisplayFile
deriving DecidableEq, Repr

/-- The members of a settings file. -/
def SettingsFile.record :
    Record [Option String, Option UInt64, Option UInt64, DisplayFile] SettingsFile where
  fields :=
    .cons (.omissible "api_url" .string) <|
    .cons (.omissible "request_timeout_ms" .uint64) <|
    .cons (.omissible "notification_interval_ms" .uint64) <|
    .cons (.defaulted "display" DisplayFile.record.codec ⟨none, none, none, none⟩) .nil
  make := fun (url, timeout, interval, display, ()) => ⟨url, timeout, interval, display⟩
  parts f := (f.apiUrl, f.requestTimeout, f.notificationInterval, f.display, ())

/-- The settings of a file, the built-in ones where it is silent. -/
def SettingsFile.settings (file : SettingsFile) : Settings :=
  let standard := Settings.standard
  let shown := standard.preferences
  { apiBaseUrl := file.apiUrl.getD standard.apiBaseUrl
    requestTimeout := file.requestTimeout.getD standard.requestTimeout
    notificationInterval := file.notificationInterval.getD standard.notificationInterval
    preferences :=
      { showHistory := file.display.showHistory.getD shown.showHistory
        showOnlySums := file.display.showOnlySums.getD shown.showOnlySums
        showImages := file.display.showImages.getD shown.showImages
        showNotifications := file.display.showNotifications.getD shown.showNotifications } }

/-- The settings from the content of a file, the built-in ones when there is none or it does not decode. -/
def Settings.ofFile (content : Option (List Char)) : Settings :=
  match content with
  | none => .standard
  | some text =>
    match SettingsFile.record.codec.decode text with
    | .ok file => file.settings
    | .error _ => .standard

/-- The settings with a nonempty address of the environment in place of their own. -/
def Settings.withUrl (settings : Settings) (url : Option String) : Settings :=
  match url with
  | none => settings
  | some url => if url.isEmpty then settings else { settings with apiBaseUrl := url }

/-- The settings from the content of the settings file and the address of the environment. -/
def Settings.load (content : Option (List Char)) (url : Option String) : Settings :=
  (Settings.ofFile content).withUrl url

/-- Where the settings file is: at the path of the environment unless that is empty. -/
def settingsPath (path : Option String) : String :=
  match path with
  | none => "config/relay.json"
  | some path => if path.isEmpty then "config/relay.json" else path

end Scoreboard
