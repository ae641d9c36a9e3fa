import Mathlib.Data.List.Induction
import Mathlib.Data.List.Nodup
import Scoreboard.Overlay

/-! Tokens of the overlay: each stands for one show or start, whatever is done with it and when. -/

namespace Scoreboard

namespace Overlay

/-- What can be done to an overlay. -/
inductive Operation
  | showFirstBlood (service team : String)
  | expireFirstBlood (token : UInt64)
  | dismissFirstBlood
  | startPyro
  | revealPyro (token : UInt64)
  | endPyro (token : UInt64)
  | setPodium (podium : List PodiumEntry)

/-- What an operation answers. -/
inductive Answer
  | token (token : UInt64)
  | done (changed : Bool)
  | nothing
deriving DecidableEq

/-- The parts of an overlay. -/
inductive Part
  | banner
  | animation
  | podium
deriving DecidableEq

/-- The part of the overlay that an operation is about. -/
def Operation.part : Operation → Part
  | .showFirstBlood .. | .expireFirstBlood _ | .dismissFirstBlood => .banner
  | .startPyro | .revealPyro _ | .endPyro _ => .animation
  | .setPodium _ => .podium

/-- Two overlays differ in no part but one. -/
def AgreesBut (part : Part) (overlay other : Overlay) : Prop :=
  (part ≠ .banner → other.banner = overlay.banner ∧
      other.bannerGeneration = overlay.bannerGeneration) ∧
    (part ≠ .animation → other.pyro = overlay.pyro ∧
      other.pyroGeneration = overlay.pyroGeneration) ∧
    (part ≠ .podium → other.podium = overlay.podium)

/-- A banner is shown. -/
def Operation.shows : Operation → Bool
  | .showFirstBlood .. => true
  | _ => false

/-- The animation is started. -/
def Operation.starts : Operation → Bool
  | .startPyro => true
  | _ => false

/-- The overlay after an operation, and what that answers. -/
def operate (overlay : Overlay) : Operation → Overlay × Answer
  | .showFirstBlood service team => (overlay.showFirstBlood service team).map id .token
  | .expireFirstBlood token => (overlay.expireFirstBlood token).map id .done
  | .dismissFirstBlood => overlay.dismissFirstBlood.map id .done
  | .startPyro => overlay.startPyro.map id .token
  | .revealPyro token => (overlay.revealPyro token).map id .done
  | .endPyro token => (overlay.endPyro token).map id .done
  | .setPodium podium => (overlay.setPodium podium, .nothing)

/-- An operation, and what it answered. -/
structure Entry where
  operation : Operation
  answer : Answer

namespace Entry

/-- The token of a show. -/
def bannerToken? : Entry → Option UInt64
  | ⟨.showFirstBlood .., .token token⟩ => some token
  | _ => none

/-- The token of a start. -/
def pyroToken? : Entry → Option UInt64
  | ⟨.startPyro, .token token⟩ => some token
  | _ => none

/-- The fireworks were revealed for a token. -/
def reveals (token : UInt64) : Entry → Bool
  | ⟨.revealPyro other, .done true⟩ => other = token
  | _ => false

/-- The animation was ended for a token. -/
def ends (token : UInt64) : Entry → Bool
  | ⟨.endPyro other, .done true⟩ => other = token
  | _ => false

/-- Whatever banner was there before has gone. -/
def replacesBanner : Entry → Bool
  | ⟨.showFirstBlood .., _⟩ | ⟨.expireFirstBlood _, .done true⟩ | ⟨.dismissFirstBlood, _⟩ => true
  | _ => false

/-- Whatever animation was under way before has gone. -/
def replacesPyro : Entry → Bool
  | ⟨.startPyro, _⟩ | ⟨.endPyro _, .done true⟩ => true
  | _ => false

/-- Whatever animation was under way before has gone, or has got beyond its backdrop. -/
def movesPyro : Entry → Bool
  | ⟨.revealPyro _, .done true⟩ => true
  | entry => entry.replacesPyro

end Entry

/-- An overlay, and what was done to it since there was nothing on it. -/
structure Account where
  past : List Entry
  overlay : Overlay

/-- One more operation. -/
def Account.more (account : Account) (operation : Operation) : Account :=
  let (overlay, answer) := account.overlay.operate operation
  ⟨account.past ++ [⟨operation, answer⟩], overlay⟩

/-- What comes of some operations, one after another. -/
def account (operations : List Operation) : Account :=
  operations.foldl .more ⟨[], .initial⟩

/-- A call was made, and nothing has come since that closes it. -/
def Lasts (past : List Entry) (call : Entry) (closes : Entry → Bool) : Prop :=
  ∃ earlier since, past = earlier ++ call :: since ∧ ∀ later ∈ since, closes later = false

/-- The tokens of the first so many shows, or starts. -/
def issued (count : Nat) : List UInt64 :=
  (List.range count).map fun place => UInt64.ofNat (place + 1)

/-- The last operation is done behind all others. -/
theorem account_concat (operations : List Operation) (operation : Operation) :
    account (operations ++ [operation]) = (account operations).more operation := by
  rw [account, List.foldl_append]
  rfl

section Lasting

variable {past front back : List Entry} {call entry : Entry} {closes : Entry → Bool}

/-- Before the first operation nothing lasts. -/
theorem lasts_nil : ¬ Lasts [] call closes := by
  rintro ⟨earlier, since, parts, _⟩
  simp at parts

/-- The last entry is the call itself, or leaves alone what has lasted so far. -/
theorem lasts_concat :
    Lasts (past ++ [entry]) call closes ↔
      entry = call ∨ Lasts past call closes ∧ closes entry = false := by
  constructor
  · rintro ⟨earlier, since, parts, lasting⟩
    -- Either nothing has come since the call, or the last entry is the last one since.
    rcases List.eq_nil_or_concat since with rfl | ⟨since, last, rfl⟩
    · exact .inl (List.singleton_inj.mp (List.append_inj' parts rfl).2)
    · -- Without the last entry, the same call has lasted with one entry less behind it.
      rw [List.concat_eq_append] at parts lasting
      rw [← List.cons_append, ← List.append_assoc] at parts
      obtain ⟨before, same⟩ := List.append_inj' parts rfl
      cases same
      exact .inr ⟨⟨earlier, since, before, fun later member => lasting later (by simp [member])⟩,
        lasting entry (by simp)⟩
  · rintro (rfl | ⟨⟨earlier, since, rfl, lasting⟩, harmless⟩)
    · exact ⟨past, [], rfl, fun _ none => nomatch none⟩
    · refine ⟨earlier, since ++ [entry], by simp, ?_⟩
      exact List.forall_mem_append.mpr ⟨lasting, List.forall_mem_singleton.mpr harmless⟩

/-- What lasts has happened. -/
theorem Lasts.mem (lasts : Lasts past call closes) : call ∈ past := by
  obtain ⟨earlier, since, rfl, _⟩ := lasts
  simp

/-- A call that lasts beyond an entry that closes it has been made again behind that. -/
theorem Lasts.renewed (lasts : Lasts (front ++ entry :: back) call closes)
    (ended : closes entry = true) : call ∈ entry :: back := by
  -- The induction takes entries off the end, up to the one that closes the call.
  induction back using List.reverseRecOn with
  | nil =>
    -- The entry is the last one, so that it is the call itself: it closes what came before.
    rcases lasts_concat.mp lasts with same | ⟨_, harmless⟩
    · simp [same]
    · rw [ended] at harmless
      cases harmless
  | append_singleton back last ih =>
    rw [← List.cons_append, ← List.append_assoc] at lasts
    rcases lasts_concat.mp lasts with same | ⟨before, _⟩
    · simp [same]
    · exact List.mem_append_left _ (ih before)

end Lasting

/-- Everything that an operation can do to an overlay, and what it answers then. -/
inductive Effect (overlay : Overlay) : Operation → Overlay × Answer → Prop
  | shows (service team : String) : overlay.Effect (.showFirstBlood service team)
      ({ overlay with
          banner := .shown service team (overlay.bannerGeneration + 1)
          bannerGeneration := overlay.bannerGeneration + 1 },
        .token (overlay.bannerGeneration + 1))
  | expires (service team : String) (token : UInt64)
      (there : overlay.banner = .shown service team token) :
      overlay.Effect (.expireFirstBlood token) ({ overlay with banner := .idle }, .done true)
  | outlasts (token : UInt64) (other : ∀ service team, overlay.banner ≠ .shown service team token) :
      overlay.Effect (.expireFirstBlood token) (overlay, .done false)
  | dismisses (there : overlay.banner ≠ .idle) :
      overlay.Effect .dismissFirstBlood ({ overlay with banner := .idle }, .done true)
  | idles (idle : overlay.banner = .idle) :
      overlay.Effect .dismissFirstBlood (overlay, .done false)
  | starts : overlay.Effect .startPyro
      ({ overlay with pyro := .backdrop, pyroGeneration := overlay.pyroGeneration + 1 },
        .token (overlay.pyroGeneration + 1))
  | reveals (backdrop : overlay.pyro = .backdrop) :
      overlay.Effect (.revealPyro overlay.pyroGeneration)
        ({ overlay with pyro := .effect }, .done true)
  | waits (token : UInt64) (other : ¬ (overlay.pyroGeneration = token ∧ overlay.pyro = .backdrop)) :
      overlay.Effect (.revealPyro token) (overlay, .done false)
  | ends (playing : overlay.pyro ≠ .hidden) :
      overlay.Effect (.endPyro overlay.pyroGeneration)
        ({ overlay with pyro := .hidden }, .done true)
  | goesOn (token : UInt64) (other : ¬ (overlay.pyroGeneration = token ∧ overlay.pyro ≠ .hidden)) :
      overlay.Effect (.endPyro token) (overlay, .done false)
  | stores (podium : List PodiumEntry) : overlay.Effect (.setPodium podium)
      ({ overlay with podium := podium }, .nothing)

/-- Every operation has the effect that its answer tells. -/
theorem effect (overlay : Overlay) (operation : Operation) :
    overlay.Effect operation (overlay.operate operation) := by
  -- Shows, starts and podiums always do the same; the others look at what is there first.
  cases operation with
  | showFirstBlood service team => exact .shows service team
  | startPyro => exact .starts
  | setPodium podium => exact .stores podium
  | expireFirstBlood token =>
    simp only [operate, expireFirstBlood]
    -- A banner has its token with it, and without a banner no token fits.
    split
    · rename_i service team shown banner
      split
      · rename_i same
        exact .expires service team token (same ▸ banner)
      · rename_i other
        refine .outlasts token fun _ _ there => other ?_
        exact (Banner.shown.inj (banner.symm.trans there)).2.2
    · rename_i idle
      exact .outlasts token fun _ _ there => nomatch idle.symm.trans there
  | dismissFirstBlood =>
    simp only [operate, dismissFirstBlood]
    split
    · rename_i banner
      exact .dismisses fun idle => nomatch banner.symm.trans idle
    · rename_i idle
      exact .idles idle
  | revealPyro token =>
    simp only [operate, revealPyro]
    -- The animation's token is the generation, whatever the stage.
    split
    · rename_i own
      obtain ⟨rfl, backdrop⟩ := own
      exact .reveals backdrop
    · rename_i other
      exact .waits token other
  | endPyro token =>
    simp only [operate, endPyro]
    split
    · rename_i own
      obtain ⟨rfl, playing⟩ := own
      exact .ends playing
    · rename_i other
      exact .goesOn token other

namespace Effect

variable {overlay : Overlay} {operation : Operation} {result : Overlay × Answer}

/-- An operation that did nothing has left everything as it was. -/
theorem unchanged (effect : overlay.Effect operation result) (failed : result.2 = .done false) :
    result.1 = overlay := by
  cases effect <;> first | rfl | cases failed

/-- An operation changes no part of the overlay but the one that it is about. -/
theorem agreesBut (effect : overlay.Effect operation result) :
    AgreesBut operation.part overlay result.1 := by
  cases effect <;> simp [AgreesBut, Operation.part]

/-- A banner that is there has just been shown, or has been left alone. -/
theorem banner_iff (effect : overlay.Effect operation result) (service team : String)
    (token : UInt64) : result.1.banner = .shown service team token ↔
      (⟨operation, result.2⟩ : Entry) = ⟨.showFirstBlood service team, .token token⟩ ∨
        overlay.banner = .shown service team token ∧
          Entry.replacesBanner ⟨operation, result.2⟩ = false := by
  cases effect <;> simp_all [Entry.replacesBanner, and_assoc]

/-- An animation at its backdrop has just been started, or has been left alone. -/
theorem backdrop_iff (effect : overlay.Effect operation result) (token : UInt64) :
    result.1.pyroGeneration = token ∧ result.1.pyro = .backdrop ↔
      (⟨operation, result.2⟩ : Entry) = ⟨.startPyro, .token token⟩ ∨
        (overlay.pyroGeneration = token ∧ overlay.pyro = .backdrop) ∧
          Entry.movesPyro ⟨operation, result.2⟩ = false := by
  cases effect <;> simp [Entry.movesPyro, Entry.replacesPyro]

/-- An animation that plays has just been started, or has not been ended. -/
theorem playing_iff (effect : overlay.Effect operation result) (token : UInt64) :
    result.1.pyroGeneration = token ∧ result.1.pyro ≠ .hidden ↔
      (⟨operation, result.2⟩ : Entry) = ⟨.startPyro, .token token⟩ ∨
        (overlay.pyroGeneration = token ∧ overlay.pyro ≠ .hidden) ∧
          Entry.replacesPyro ⟨operation, result.2⟩ = false := by
  cases effect <;> simp_all [Entry.replacesPyro]

/-- A show counts the generation up and answers it, and nothing else gives a banner's token. -/
theorem bannerToken (effect : overlay.Effect operation result) :
    result.1.bannerGeneration = overlay.bannerGeneration + (if operation.shows then 1 else 0) ∧
      Entry.bannerToken? ⟨operation, result.2⟩ =
        if operation.shows then some (overlay.bannerGeneration + 1) else none := by
  cases effect <;> simp [Operation.shows, Entry.bannerToken?]

/-- A start counts the generation up and answers it, and nothing else gives a start's token. -/
theorem pyroToken (effect : overlay.Effect operation result) :
    result.1.pyroGeneration = overlay.pyroGeneration + (if operation.starts then 1 else 0) ∧
      Entry.pyroToken? ⟨operation, result.2⟩ =
        if operation.starts then some (overlay.pyroGeneration + 1) else none := by
  cases effect <;> simp [Operation.starts, Entry.pyroToken?]

end Effect

/-- The next token comes behind those that were given out. -/
theorem issued_succ (count : Nat) :
    issued (count + 1) = issued count ++ [UInt64.ofNat count + 1] := by
  simp [issued, List.range_succ]

/-- Fewer tokens than there are generations are different from one another. -/
theorem issued_nodup {count : Nat} (few : count < UInt64.size) : (issued count).Nodup := by
  refine List.Nodup.map_on ?_ List.nodup_range
  -- Below the bound, a token is the place of its call.
  intro first before second behind same
  rw [List.mem_range] at before behind
  have values := congrArg UInt64.toNat same
  rw [UInt64.toNat_ofNat_of_lt' (by omega), UInt64.toNat_ofNat_of_lt' (by omega)] at values
  omega

/-- The operations of a kind were given the tokens up to a generation, one after another. -/
structure Numbered (kind : Operation → Bool) (token? : Entry → Option UInt64)
    (operations : List Operation) (past : List Entry) (generation : UInt64) : Prop where
  tokens : past.filterMap token? = issued (operations.countP kind)
  generation : generation = UInt64.ofNat (operations.countP kind)

namespace Numbered

variable {kind : Operation → Bool} {token? : Entry → Option UInt64} {operations : List Operation}
  {past : List Entry} {generation next : UInt64}

/-- Tokens that are numbered stay so behind another operation. -/
theorem more (numbered : Numbered kind token? operations past generation) {operation : Operation}
    {entry : Entry} (counted : next = generation + (if kind operation then 1 else 0) ∧
      token? entry = if kind operation then some (generation + 1) else none) :
    Numbered kind token? (operations ++ [operation]) (past ++ [entry]) next := by
  obtain ⟨rfl, token⟩ := counted
  constructor
  · rw [List.filterMap_append, numbered.tokens, List.countP_append, List.countP_singleton]
    -- A new token is the next one behind those that were issued.
    by_cases own : kind operation
    · simp [own, token, numbered.generation, issued_succ]
    · simp [own, token]
  · rw [List.countP_append, List.countP_singleton, numbered.generation]
    by_cases own : kind operation <;> simp [own]

/-- Each operation of the kind was given a token, and no two of them the same. -/
theorem distinct (numbered : Numbered kind token? operations past generation)
    (few : operations.countP kind < UInt64.size) :
    (past.filterMap token?).length = operations.countP kind ∧ (past.filterMap token?).Nodup := by
  rw [numbered.tokens]
  exact ⟨by rw [issued, List.length_map, List.length_range], issued_nodup few⟩

end Numbered

/-- What some operations have made of an overlay, by what they were and what they answered. -/
structure Account.Told (account : Account) (operations : List Operation) : Prop where
  shows : Numbered Operation.shows Entry.bannerToken? operations account.past
    account.overlay.bannerGeneration
  starts : Numbered Operation.starts Entry.pyroToken? operations account.past
    account.overlay.pyroGeneration
  banner (service team : String) (token : UInt64) :
    account.overlay.banner = .shown service team token ↔
      Lasts account.past ⟨.showFirstBlood service team, .token token⟩ Entry.replacesBanner
  backdrop (token : UInt64) :
    account.overlay.pyroGeneration = token ∧ account.overlay.pyro = .backdrop ↔
      Lasts account.past ⟨.startPyro, .token token⟩ Entry.movesPyro
  playing (token : UInt64) :
    account.overlay.pyroGeneration = token ∧ account.overlay.pyro ≠ .hidden ↔
      Lasts account.past ⟨.startPyro, .token token⟩ Entry.replacesPyro

/-- An account that is told by its operations stays so behind another one. -/
theorem Account.Told.more {account : Account} {operations : List Operation}
    (told : account.Told operations) (operation : Operation) :
    (account.more operation).Told (operations ++ [operation]) := by
  have effect := account.overlay.effect operation
  have more : account.more operation =
      ⟨account.past ++ [⟨operation, (account.overlay.operate operation).2⟩],
        (account.overlay.operate operation).1⟩ := rfl
  rw [more]
  -- For the lasting calls, the last entry decides as the effect of its operation says.
  refine ⟨told.shows.more effect.bannerToken, told.starts.more effect.pyroToken,
    fun service team token => ?_, fun token => ?_, fun token => ?_⟩
  · rw [lasts_concat, ← told.banner]
    exact effect.banner_iff service team token
  · rw [lasts_concat, ← told.backdrop]
    exact effect.backdrop_iff token
  · rw [lasts_concat, ← told.playing]
    exact effect.playing_iff token

/-- Whatever the operations are, they tell what the overlay shows. -/
theorem told_account (operations : List Operation) : (account operations).Told operations := by
  -- The induction is on the operations from behind.
  induction operations using List.reverseRecOn with
  | nil =>
    refine ⟨⟨rfl, rfl⟩, ⟨rfl, rfl⟩, fun service team token => ?_, fun token => ?_, fun token => ?_⟩
      <;> simp [account, initial, lasts_nil]
  | append_singleton operations operation ih =>
    rw [account_concat]
    exact ih.more operation

section Histories

variable {operations : List Operation} {front back : List Entry} {entry : Entry} {token : UInt64}

/-- Each entry tells what its operation has answered behind those before. -/
theorem account_split (parts : (account operations).past = front ++ entry :: back) :
    ∃ earlier, (account earlier).past = front ∧
      ((account earlier).overlay.operate entry.operation).2 = entry.answer := by
  -- The induction is on the operations from behind, since the last entry is that of the last one.
  induction operations using List.reverseRecOn generalizing back with
  | nil => simp [account] at parts
  | append_singleton operations operation ih =>
    rw [account_concat] at parts
    change (account operations).past ++ [_] = _ at parts
    rcases List.eq_nil_or_concat back with rfl | ⟨back, last, rfl⟩
    · -- The entry is the last one.
      obtain ⟨same, own⟩ := List.append_inj' parts rfl
      cases List.singleton_inj.mp own
      exact ⟨operations, same, rfl⟩
    · -- The entry stands before the last one, where the induction finds it.
      rw [List.concat_eq_append, ← List.cons_append, ← List.append_assoc] at parts
      exact ih (List.append_inj' parts rfl).1

/-- The entry that reveals an animation is that of its timer, answered with yes. -/
theorem Entry.eq_of_reveals (reveals : entry.reveals token = true) :
    entry = ⟨.revealPyro token, .done true⟩ := by
  -- The only entries that can reveal are compared as a whole.
  unfold Entry.reveals at reveals
  split at reveals
  · rw [of_decide_eq_true reveals]
  · cases reveals

/-- The entry that ends an animation is that of its timer, answered with yes. -/
theorem Entry.eq_of_ends (ends : entry.ends token = true) :
    entry = ⟨.endPyro token, .done true⟩ := by
  -- The only entries that can end are compared as a whole.
  unfold Entry.ends at ends
  split at ends
  · rw [of_decide_eq_true ends]
  · cases ends

/-- A banner expires by its own token only. -/
theorem expires_iff (overlay : Overlay) (token : UInt64) :
    (overlay.expireFirstBlood token).2 = true ↔
      ∃ service team, overlay.banner = .shown service team token := by
  -- With a banner the tokens are compared, and without one nothing expires.
  unfold expireFirstBlood
  split
  · rename_i service team shown banner
    rw [banner]
    split <;> simp_all
  · rename_i idle
    simp [idle]

/-- An animation is revealed by its own token only, from its backdrop. -/
theorem reveals_iff (overlay : Overlay) (token : UInt64) :
    (overlay.revealPyro token).2 = true ↔
      overlay.pyroGeneration = token ∧ overlay.pyro = .backdrop := by
  unfold revealPyro
  split <;> simp_all

/-- An animation is ended by its own token only, while it plays. -/
theorem ends_iff (overlay : Overlay) (token : UInt64) :
    (overlay.endPyro token).2 = true ↔
      overlay.pyroGeneration = token ∧ overlay.pyro ≠ .hidden := by
  unfold endPyro
  split <;> simp_all

/-- Fireworks are revealed for the last start, while it is at its backdrop. -/
theorem lasts_of_reveals (parts : (account operations).past = front ++ entry :: back)
    (reveals : entry.reveals token = true) :
    Lasts front ⟨.startPyro, .token token⟩ Entry.movesPyro := by
  -- The entry was answered with yes, so the backdrop of this token was there.
  obtain ⟨earlier, rfl, answer⟩ := account_split parts
  cases Entry.eq_of_reveals reveals
  exact ((told_account earlier).backdrop token).mp
    ((reveals_iff _ token).mp (Answer.done.inj answer))

/-- An animation is ended for the last start, while it plays. -/
theorem lasts_of_ends (parts : (account operations).past = front ++ entry :: back)
    (ends : entry.ends token = true) :
    Lasts front ⟨.startPyro, .token token⟩ Entry.replacesPyro := by
  -- The entry was answered with yes, so the animation of this token was there.
  obtain ⟨earlier, rfl, answer⟩ := account_split parts
  cases Entry.eq_of_ends ends
  exact ((told_account earlier).playing token).mp
    ((ends_iff _ token).mp (Answer.done.inj answer))

/-- The token of an animation that lasts is among those given out. -/
theorem mem_pyroTokens {past : List Entry} {closes : Entry → Bool}
    (lasts : Lasts past ⟨.startPyro, .token token⟩ closes) :
    token ∈ past.filterMap Entry.pyroToken? :=
  List.mem_filterMap.mpr ⟨_, lasts.mem, rfl⟩

/-- What has ended for a token stays ended, as no other start has the token. -/
theorem not_lasts {closes : Entry → Bool}
    (distinct : ((front ++ entry :: back).filterMap Entry.pyroToken?).Nodup)
    (given : token ∈ front.filterMap Entry.pyroToken?) (ended : closes entry = true) :
    ¬ Lasts (front ++ entry :: back) ⟨.startPyro, .token token⟩ closes := by
  intro lasts
  -- The token would have been given once up to the entry, and once more from there on.
  have again : token ∈ (entry :: back).filterMap Entry.pyroToken? :=
    List.mem_filterMap.mpr ⟨_, lasts.renewed ended, rfl⟩
  rw [List.filterMap_append] at distinct
  exact (List.nodup_append.mp distinct).2.2 token given token again rfl

/-- Behind the end of an animation, nothing more is done for its token. -/
theorem over_for_good (few : operations.countP Operation.starts < UInt64.size)
    (parts : (account operations).past = front ++ entry :: back)
    (given : token ∈ front.filterMap Entry.pyroToken?) {later : Entry} (member : later ∈ back) :
    (entry.movesPyro = true → later.reveals token = false) ∧
      (entry.replacesPyro = true → later.ends token = false) := by
  obtain ⟨middle, rest, rfl⟩ := List.append_of_mem member
  have split : (account operations).past = (front ++ entry :: middle) ++ later :: rest := by
    rw [parts, List.append_assoc, List.cons_append]
  -- No start up to the later entry was given the token of another one.
  have distinct : ((front ++ entry :: middle).filterMap Entry.pyroToken?).Nodup := by
    have whole := ((told_account operations).starts.distinct few).2
    rw [split, List.filterMap_append] at whole
    exact (List.nodup_append.mp whole).1
  constructor
  · intro moved
    exact Bool.eq_false_iff.mpr fun again =>
      not_lasts distinct given moved (lasts_of_reveals split again)
  · intro ended
    exact Bool.eq_false_iff.mpr fun again =>
      not_lasts distinct given ended (lasts_of_ends split again)

/-- What never follows on itself happens once at most. -/
theorem countP_le_one {past : List Entry} {kind : Entry → Bool}
    (once : ∀ front entry back, past = front ++ entry :: back → kind entry = true →
      ∀ later ∈ back, kind later = false) : past.countP kind ≤ 1 := by
  induction past with
  | nil => exact Nat.zero_le 1
  | cons first rest ih =>
    -- Either it happens right here and not again, or it is left to the rest.
    by_cases here : kind first = true
    · have none : rest.countP kind = 0 :=
        List.countP_eq_zero.mpr fun later member =>
          Bool.eq_false_iff.mp (once [] first rest rfl here later member)
      have counted : (first :: rest).countP kind = rest.countP kind + 1 :=
        List.countP_cons_of_pos here
      omega
    · rw [List.countP_cons_of_neg here]
      exact ih fun front entry back parts => once (first :: front) entry back (by rw [parts]; rfl)

/--
A token stands for one show, or for one start of the animation, whatever is done to the overlay.

Shows give different tokens, and so do starts. The banner that is there is that of a show that
nothing has replaced since, and a token takes away the banner of its own show only. Fireworks are
revealed for the token of the last start until they were or the animation ended, and it is ended for
that token until it was. So for each token both happen once at most, fireworks are not revealed
behind the end, and neither happens behind a later start. An operation that does nothing leaves
everything as it was, and each leaves the parts alone that it is not about.
-/
theorem tokens_stand_for_their_calls (operations : List Operation)
    (fewShows : operations.countP Operation.shows < UInt64.size)
    (fewStarts : operations.countP Operation.starts < UInt64.size) :
    let past := (account operations).past
    let overlay := (account operations).overlay
    ((past.filterMap Entry.bannerToken?).length = operations.countP Operation.shows ∧
        (past.filterMap Entry.bannerToken?).Nodup) ∧
      ((past.filterMap Entry.pyroToken?).length = operations.countP Operation.starts ∧
        (past.filterMap Entry.pyroToken?).Nodup) ∧
      (∀ service team token, overlay.banner = .shown service team token ↔
        Lasts past ⟨.showFirstBlood service team, .token token⟩ Entry.replacesBanner) ∧
      (∀ token, (overlay.expireFirstBlood token).2 = true ↔ ∃ service team,
        Lasts past ⟨.showFirstBlood service team, .token token⟩ Entry.replacesBanner) ∧
      (∀ token, (overlay.revealPyro token).2 = true ↔
        Lasts past ⟨.startPyro, .token token⟩ Entry.movesPyro) ∧
      (∀ token, (overlay.endPyro token).2 = true ↔
        Lasts past ⟨.startPyro, .token token⟩ Entry.replacesPyro) ∧
      (∀ token, past.countP (Entry.reveals token) ≤ 1 ∧ past.countP (Entry.ends token) ≤ 1) ∧
      (∀ front entry back token, past = front ++ entry :: back → entry.ends token = true →
        ∀ later ∈ back, later.reveals token = false) ∧
      (∀ front entry back token, past = front ++ entry :: back → entry.operation = .startPyro →
        token ∈ front.filterMap Entry.pyroToken? →
        ∀ later ∈ back, later.reveals token = false ∧ later.ends token = false) ∧
      ∀ operation, AgreesBut operation.part overlay (overlay.operate operation).1 ∧
        ((overlay.operate operation).2 = .done false →
          (overlay.operate operation).1 = overlay) := by
  intro past overlay
  have told : (account operations).Told operations := told_account operations
  -- A reveal closes its token for reveals, and an end closes it for both.
  have moves {entry : Entry} {token : UInt64} (reveals : entry.reveals token = true) :
      entry.movesPyro = true := Entry.eq_of_reveals reveals ▸ rfl
  have replaces {entry : Entry} {token : UInt64} (ends : entry.ends token = true) :
      entry.movesPyro = true ∧ entry.replacesPyro = true := Entry.eq_of_ends ends ▸ ⟨rfl, rfl⟩
  refine ⟨told.shows.distinct fewShows, told.starts.distinct fewStarts, told.banner,
    fun token => ?_, fun token => ?_, fun token => ?_,
    fun token => ⟨countP_le_one ?_, countP_le_one ?_⟩, ?_, ?_, fun operation => ?_⟩
  · simp only [expires_iff, overlay, told.banner, past]
  · rw [reveals_iff]
    exact told.backdrop token
  · rw [ends_iff]
    exact told.playing token
  · intro front entry back parts reveals later member
    exact (over_for_good fewStarts parts (mem_pyroTokens (lasts_of_reveals parts reveals))
      member).1 (moves reveals)
  · intro front entry back parts ends later member
    exact (over_for_good fewStarts parts (mem_pyroTokens (lasts_of_ends parts ends))
      member).2 (replaces ends).2
  · intro front entry back token parts ends later member
    exact (over_for_good fewStarts parts (mem_pyroTokens (lasts_of_ends parts ends))
      member).1 (replaces ends).1
  · intro front entry back token parts starts given later member
    -- A start closes every token that was given before.
    obtain ⟨operation, answer⟩ := entry
    cases starts
    have closed := over_for_good fewStarts parts given member
    exact ⟨closed.1 rfl, closed.2 rfl⟩
  · have effect := overlay.effect operation
    exact ⟨effect.agreesBut, effect.unchanged⟩

end Histories

/-- Two banners and two animations, and tokens that come too late, too often or out of order. -/
def overlapping : List Operation :=
  [.showFirstBlood "web" "A", .showFirstBlood "pwn" "B", .expireFirstBlood 1, .revealPyro 1,
    .startPyro, .revealPyro 1, .startPyro, .endPyro 1, .revealPyro 2, .revealPyro 2, .endPyro 2,
    .revealPyro 2]

/-- Of two overlapping banners and animations, the second ones answer to their own tokens alone. -/
theorem second_show_answers_to_its_token :
    overlapping.countP Operation.shows < UInt64.size ∧
      overlapping.countP Operation.starts < UInt64.size ∧
      (account overlapping).past.map Entry.answer =
        [.token 1, .token 2, .done false, .done false, .token 1, .done true, .token 2, .done false,
          .done true, .done false, .done true, .done false] ∧
      Lasts (account overlapping).past ⟨.showFirstBlood "pwn" "B", .token 2⟩ Entry.replacesBanner ∧
      (account overlapping).past.countP (Entry.reveals 2) ≤ 1 ∧
      ∀ later ∈ (account overlapping).past.drop 7,
        later.reveals 1 = false ∧ later.ends 1 = false := by
  -- The answers are evaluated, and the theorem says what they mean for the second ones.
  obtain ⟨_, _, banner, _, _, _, once, _, overtaken, _⟩ :=
    tokens_stand_for_their_calls overlapping (by decide) (by decide)
  exact ⟨by decide, by decide, by decide, (banner "pwn" "B" 2).mp rfl, (once 2).1,
    overtaken ((account overlapping).past.take 6) ⟨.startPyro, .token 2⟩ _ 1 rfl rfl (by decide)⟩

end Overlay

end Scoreboard
