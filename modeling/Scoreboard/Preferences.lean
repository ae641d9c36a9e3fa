import Scoreboard.Json.Record

/-! What the dashboards show. -/

namespace Scoreboard

/-- The display preferences all dashboards share. -/
structure Preferences where
  showHistory : Bool
  showOnlySums : Bool
  showImages : Bool
  showNotifications : Bool
deriving DecidableEq, Repr

/-- The preferences of a relay nobody has configured. -/
def Preferences.standard : Preferences :=
  ⟨true, false, true, true⟩

/-- The members of the preferences. -/
def Preferences.record : Record [Bool, Bool, Bool, Bool] Preferences where
  fields :=
    .cons (.required "show_history" .bool) <|
    .cons (.required "show_only_sums" .bool) <|
    .cons (.required "show_images" .bool) <|
    .cons (.required "show_notifications" .bool) .nil
  make := fun (history, sums, images, notifications, ()) => ⟨history, sums, images, notifications⟩
  parts p := (p.showHistory, p.showOnlySums, p.showImages, p.showNotifications, ())

/-- The document of the preferences. -/
def Codec.preferences : Codec Preferences :=
  Preferences.record.codec

end Scoreboard
