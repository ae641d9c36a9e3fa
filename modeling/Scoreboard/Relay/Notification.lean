import Scoreboard.Relay.State

/-! Banners, the animation at the end of the game, and the timers that end them. -/

namespace Scoreboard

/-- How long a banner stays, in milliseconds. -/
def bannerDisplay : Nat := 10000

/-- How long a backdrop stands before the fireworks, in milliseconds. -/
def pyroRevealDelay : Nat := 1000

/-- How long the animation takes altogether, in milliseconds. -/
def pyroDuration : Nat := 30000

/-- How long a timer runs, in milliseconds. -/
def OverlayTimer.length : OverlayTimer → Nat
  | .bannerExpiry _ => bannerDisplay
  | .pyroReveal _ => pyroRevealDelay
  | .pyroEnd _ => pyroDuration

namespace Relay

/-- The relay with another overlay, which goes to the dashboards if it changed. -/
def overlayChanged (relay : Relay) (result : Overlay × Bool) : Relay × Bool :=
  match result with
  | (overlay, true) => ({ relay with overlay := overlay }.broadcastOverlay, true)
  | (overlay, false) => ({ relay with overlay := overlay }, false)

/-- The relay with the banner of a first blood, whose timer starts. -/
def showBanner (relay : Relay) (service team : String) : Relay :=
  let (overlay, generation) := relay.overlay.showFirstBlood service team
  ({ relay with overlay := overlay }.broadcastOverlay).start (.timer (.bannerExpiry generation))

/-- The end of a turn in which a live event was handed on. -/
def afterEvent (relay : Relay) : EventUse → Relay × Next
  | .plain => (relay, .done .nothing)
  | .dispatch limiter position => (relay, .wait (.listening limiter position))

/-- The turn in which a live event is handed on. -/
def handleEvent (relay : Relay) (use : EventUse) (event : LiveEvent) : Relay × Next :=
  match event with
  | .firstBlood service team =>
    (relay.broadcast (.firstBlood service team)).enter (.weighBanner use service team)
  | .final tick => (relay.start (.gameOver tick)).afterEvent use

/-- The turn in which a banner is shown, unless the preferences forbid it. -/
def weighBanner (relay : Relay) (use : EventUse) (service team : String) : Relay × Next :=
  if relay.preferences.showNotifications then relay.enter (.showBanner use service team)
  else relay.afterEvent use

/-- The relay without a banner, and whether there was one. -/
def dismissBanner (relay : Relay) : Relay × Bool :=
  relay.overlayChanged relay.overlay.dismissFirstBlood

/-- The relay at the start of the animation, whose timers start. -/
def playPyro (relay : Relay) : Relay :=
  let (overlay, generation) := relay.overlay.startPyro
  (({ relay with overlay := overlay }.broadcastOverlay).start
    (.timer (.pyroReveal generation))).start (.timer (.pyroEnd generation))

/-- The relay after a timer has run out. -/
def runOut (relay : Relay) (timer : OverlayTimer) : Relay :=
  (relay.overlayChanged
    (match timer with
      | .bannerExpiry generation => relay.overlay.expireFirstBlood generation
      | .pyroReveal generation => relay.overlay.revealPyro generation
      | .pyroEnd generation => relay.overlay.endPyro generation)).1

/-- The turn in which the podium of the last round is told. -/
def nameWinners (relay : Relay) (tick : Tick) (round : Round) : Relay × Next :=
  let winners := podium round relay.teams
  (relay.broadcast (.gameOver tick winners)).enter (.keepPodium winners)

/-- The turn in which the podium joins the overlay. -/
def keepPodium (relay : Relay) (winners : List PodiumEntry) : Relay × Next :=
  { relay with overlay := relay.overlay.setPodium winners }.enter (.weighPyro winners)

/-- The turn in which the animation is played, unless the preferences forbid it. -/
def weighPyro (relay : Relay) (winners : List PodiumEntry) : Relay × Next :=
  if relay.preferences.showNotifications then relay.enter (.playPyro winners)
  else (relay, .done (.podium (.ok winners)))

end Relay

end Scoreboard
