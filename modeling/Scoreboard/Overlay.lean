import Scoreboard.Podium

/-! What is laid over the dashboards: a banner, an animation and a podium. -/

namespace Scoreboard

/-- The banner of a first blood. -/
inductive Banner
  | idle
  /-- Shown since the show of a generation. -/
  | shown (service team : String) (generation : UInt64)
deriving DecidableEq, Repr

/-- The stages of the animation at the end of the game. -/
inductive PyroStage
  | hidden
  | backdrop
  | effect
deriving DecidableEq, Repr

/-- The name a stage is written as. -/
def PyroStage.name : PyroStage → String
  | .hidden => "hidden"
  | .backdrop => "backdrop"
  | .effect => "effect"

/-- Everything laid over the dashboards; generations tell one show from the next. -/
structure Overlay where
  banner : Banner
  bannerGeneration : UInt64
  pyro : PyroStage
  pyroGeneration : UInt64
  podium : List PodiumEntry

namespace Overlay

/-- Nothing laid over the dashboards. -/
def initial : Overlay :=
  ⟨.idle, 0, .hidden, 0, []⟩

/-- The overlay with the banner of a first blood, and its new generation. -/
def showFirstBlood (overlay : Overlay) (service team : String) : Overlay × UInt64 :=
  let generation := overlay.bannerGeneration + 1
  ({ overlay with banner := .shown service team generation, bannerGeneration := generation },
    generation)

/-- The overlay without the banner of a generation, and whether that one was there. -/
def expireFirstBlood (overlay : Overlay) (generation : UInt64) : Overlay × Bool :=
  match overlay.banner with
  | .shown _ _ shown =>
    if shown = generation then ({ overlay with banner := .idle }, true) else (overlay, false)
  | .idle => (overlay, false)

/-- The overlay without a banner, and whether there was one. -/
def dismissFirstBlood (overlay : Overlay) : Overlay × Bool :=
  match overlay.banner with
  | .shown .. => ({ overlay with banner := .idle }, true)
  | .idle => (overlay, false)

/-- The overlay with a podium. -/
def setPodium (overlay : Overlay) (podium : List PodiumEntry) : Overlay :=
  { overlay with podium := podium }

/-- The overlay at the start of the animation, and its new generation. -/
def startPyro (overlay : Overlay) : Overlay × UInt64 :=
  let generation := overlay.pyroGeneration + 1
  ({ overlay with pyro := .backdrop, pyroGeneration := generation }, generation)

/-- The overlay with the fireworks of a generation, and whether its backdrop was there. -/
def revealPyro (overlay : Overlay) (generation : UInt64) : Overlay × Bool :=
  if overlay.pyroGeneration = generation ∧ overlay.pyro = .backdrop then
    ({ overlay with pyro := .effect }, true)
  else (overlay, false)

/-- The overlay without the animation of a generation, and whether that one was there. -/
def endPyro (overlay : Overlay) (generation : UInt64) : Overlay × Bool :=
  if overlay.pyroGeneration = generation ∧ overlay.pyro ≠ .hidden then
    ({ overlay with pyro := .hidden }, true)
  else (overlay, false)

/-- The generation of the banner that is shown. -/
def shownGeneration (overlay : Overlay) : Option UInt64 :=
  match overlay.banner with
  | .shown _ _ generation => some generation
  | .idle => none

/-- The banner as a document. -/
def writeBanner : Banner → List Char
  | .idle => "null".toList
  | .shown service team _ => writeObject
    [writeMember "service" (quote service.toList), writeMember "team" (quote team.toList)]

/-- What the dashboards see, as a document. -/
def write (overlay : Overlay) : List Char :=
  writeObject
    [writeMember "first_blood" (writeBanner overlay.banner),
      writeMember "pyro" (quote overlay.pyro.name.toList),
      writeMember "podium" (writePodium overlay.podium)]

end Overlay

end Scoreboard
