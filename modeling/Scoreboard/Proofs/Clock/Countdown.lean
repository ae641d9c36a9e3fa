import Scoreboard.Proofs.Clock.Offset
import Scoreboard.Proofs.Words

/-! The countdown: how wrong the local clock is does not show in the seconds left of a tick. -/

namespace Scoreboard

/-- The same response, met by a clock that is some seconds ahead. -/
def Arrival.ahead (seconds : Int) (arrival : Arrival) : Arrival :=
  { arrival with now := arrival.now + 1000 * seconds }

/-- The second of a reading is the word of its whole seconds. -/
theorem unixSecondOf_eq (now : Int) : unixSecondOf now = Int64.ofInt (now / 1000) := by
  rw [unixSecondOf, Int.fdiv_eq_ediv_of_nonneg _ (by decide)]

/-- The second of a reading that a word holds is exact. -/
theorem toInt_unixSecondOf {now : Int} (reading : Fits (now / 1000)) :
    (unixSecondOf now).toInt = now / 1000 := by
  rw [unixSecondOf_eq, toInt_ofInt_of_fits reading]

/-- Whole seconds are seconds rounded down. -/
theorem floor_second (now : Int) : ⌊(now : ℚ) / 1000⌋ = now / 1000 := by
  have whole := Rat.floor_intCast_div_natCast now 1000
  exact_mod_cast whole

/-- The seconds from a clock reading to the end of the tick. -/
def CurrentState.left (current : CurrentState) (now : Int) : Int :=
  current.currentTickUntil.toInt - now / 1000

/-- The seconds from a clock reading to the end of the tick, by the server's clock. -/
def LiveState.left (live : LiveState) (now : Int) : Int :=
  live.current.left now + live.clockDelta.toInt

/--
No number on the way to a countdown leaves the range of a word.

The tick ends at a second, and the server's second was told when the clock began to count. All four
numbers come up: the reading of the clock, its offset, what is left by it and by the server's clock.
-/
structure StaysInRange (ends second began now : Int) : Prop where
  reading : Fits (now / 1000)
  offset : Fits (began / 1000 - second)
  here : Fits (ends - now / 1000)
  there : Fits (ends - second - (now / 1000 - began / 1000))

instance (ends second began now : Int) : Decidable (StaysInRange ends second began now) :=
  decidable_of_iff (Fits (now / 1000) ∧ Fits (began / 1000 - second) ∧ Fits (ends - now / 1000) ∧
    Fits (ends - second - (now / 1000 - began / 1000)))
    ⟨fun ⟨reading, offset, here, there⟩ => ⟨reading, offset, here, there⟩,
      fun inRange => ⟨inRange.reading, inRange.offset, inRange.here, inRange.there⟩⟩

/-- Responses that repeat the header before them are quiet. -/
theorem Quiet.of_repeats {arrivals : List Arrival} {header : String}
    (repeats : ∀ arrival ∈ arrivals, arrival.response.date = some header) :
    Quiet (some header) arrivals := by
  -- The induction is on the responses: each header is the one remembered already, so none is new.
  induction arrivals with
  | nil => trivial
  | cons arrival later ih =>
    obtain ⟨same, repeats⟩ := List.forall_mem_cons.mp repeats
    refine ⟨?_, ?_⟩
    · rintro second ⟨other, there, new, _⟩
      exact new (same.symm.trans there)
    · rw [same]
      exact ih repeats

namespace LiveState

section Countdown

variable {live other : LiveState} {response : StateResponse} {header : String}
  {second began now : Int} {rest : List Arrival}

/-- A countdown is exact where what is left fits by either clock. -/
theorem remainingSeconds?_of_fits (reading : Fits (now / 1000))
    (here : Fits (live.current.left now)) (there : Fits (live.left now)) :
    (live.remainingSeconds? now).map Int64.toInt = some (max 0 (live.left now)) := by
  -- Both subtractions are exact where their results fit, and the larger of words is that of
  -- integers.
  have left : live.current.currentTickUntil.toInt - (unixSecondOf now).toInt =
      live.current.left now := by
    rw [toInt_unixSecondOf reading, CurrentState.left]
  have shifted : (Int64.ofInt (live.current.left now)).toInt + live.clockDelta.toInt =
      live.left now := by
    rw [toInt_ofInt_of_fits here, LiveState.left]
  unfold remainingSeconds? difference? sum?
  rw [left, wordOf?_of_fits here, Option.bind_eq_bind, Option.bind_some, shifted,
    wordOf?_of_fits there]
  show some (max (0 : Int64) (Int64.ofInt (live.left now))).toInt = _
  rw [toInt_max, Int64.toInt_zero, toInt_ofInt_of_fits there]

/-- There is no countdown exactly where what is left does not fit by one of the clocks. -/
theorem remainingSeconds?_eq_none_iff (reading : Fits (now / 1000)) :
    live.remainingSeconds? now = none ↔
      ¬ (Fits (live.current.left now) ∧ Fits (live.left now)) := by
  -- One direction is the exact countdown, and in the other one of the two results has no word.
  constructor
  · rintro missing ⟨here, there⟩
    have shown := remainingSeconds?_of_fits reading here there
    rw [missing] at shown
    cases shown
  · intro out
    have left : live.current.currentTickUntil.toInt - (unixSecondOf now).toInt =
        live.current.left now := by
      rw [toInt_unixSecondOf reading, CurrentState.left]
    unfold remainingSeconds? difference? sum?
    rw [left]
    by_cases here : Fits (live.current.left now)
    · -- The local clock leaves a word, so the step to the server's clock leaves none.
      have there : ¬ Fits ((Int64.ofInt (live.current.left now)).toInt + live.clockDelta.toInt) := by
        rw [toInt_ofInt_of_fits here]
        exact fun there => out ⟨here, there⟩
      rw [wordOf?_of_fits here, Option.bind_eq_bind, Option.bind_some, wordOf?_of_not_fits there]
      rfl
    · rw [wordOf?_of_not_fits here]
      rfl

/-- The document is the one of the last response. -/
theorem current_after (arrivals : List Arrival) (live : LiveState) :
    (live.after arrivals).current =
      ((arrivals.map fun arrival => arrival.response.state).getLastD live.current) := by
  -- Every response brings its document, and the last one is on top.
  induction arrivals using List.reverseRecOn with
  | nil => rfl
  | append_singleton earlier arrival _ =>
    rw [after_concat, List.map_append, List.map_singleton, List.getLastD_concat]
    rfl

/-- Behind a response, the document is its own until another response comes. -/
theorem current_after_apply : ((live.apply response began).after rest).current =
    (rest.map fun arrival => arrival.response.state).getLastD response.state :=
  current_after rest (live.apply response began)

/-- What is left is counted from the second that the server told, on the seconds of the clock. -/
theorem left_after (tells : response.Tells live.lastDate second)
    (quiet : Quiet response.date rest) (offset : Fits (began / 1000 - second)) (now : Int) :
    ((live.apply response began).after rest).left now =
      ((rest.map fun arrival => arrival.response.state).getLastD
        response.state).currentTickUntil.toInt - second - (now / 1000 - began / 1000) := by
  have delta := @clockDelta_after_of_quiet (live.apply response began) rest quiet
  rw [clockDelta_apply_of_tells tells, fdiv_offset] at delta
  rw [LiveState.left, CurrentState.left, current_after_apply, delta, toInt_ofInt_of_fits offset]
  -- The seconds of the clock are taken away once as they stood, and once as they stand.
  omega

/-- A countdown that stays in range is counted from the second that the server told. -/
theorem remainingSeconds?_after (tells : response.Tells live.lastDate second)
    (quiet : Quiet response.date rest) {now ends : Int}
    (last : ((rest.map fun arrival => arrival.response.state).getLastD
      response.state).currentTickUntil.toInt = ends)
    (inRange : StaysInRange ends second began now) :
    (((live.apply response began).after rest).remainingSeconds? now).map Int64.toInt =
      some (max 0 (ends - second - (now / 1000 - began / 1000))) := by
  -- What is left by the second told is what is left by the adjusted clock, which is exact in range.
  have left := left_after tells quiet inRange.offset now
  rw [last] at left
  have here : ((live.apply response began).after rest).current.left now = ends - now / 1000 := by
    rw [CurrentState.left, current_after_apply, last]
  rw [← left]
  exact remainingSeconds?_of_fits inRange.reading (here ▸ inRange.here) (left ▸ inRange.there)

/-- Whether responses tell the server's second does not depend on the clock they meet. -/
theorem quiet_ahead {before : Option String} {arrivals : List Arrival} (seconds : Int) :
    Quiet before (arrivals.map (Arrival.ahead seconds)) ↔ Quiet before arrivals := by
  induction arrivals generalizing before with
  | nil => exact Iff.rfl
  | cons arrival later ih => exact and_congr Iff.rfl ih

/--
The seconds left of a tick are those that the server would count, however wrong the clock is.

A response has told the server's second, and those since then have repeated its header. What is
left of the tick is counted from that second on, on the whole seconds of the clock that have passed
since. So at the moment of the response nothing of the clock shows at all, and a clock that is some
seconds ahead shows the same. All that is asked is that no number on the way leaves the range.
-/
theorem countdown_free_of_skew (live : LiveState) (response : StateResponse) (header : String)
    (second began : Int) (rest : List Arrival) (there : response.date = some header)
    (new : live.lastDate ≠ some header) (date : httpDateSecond header = .ok second)
    (repeats : ∀ arrival ∈ rest, arrival.response.date = some header) :
    (∀ now ends : Int,
        ((rest.map fun arrival => arrival.response.state).getLastD
          response.state).currentTickUntil.toInt = ends →
        StaysInRange ends second began now →
        (((live.apply response began).after rest).remainingSeconds? now).map Int64.toInt =
          some (max 0 (ends - second - (⌊(now : ℚ) / 1000⌋ - ⌊(began : ℚ) / 1000⌋)))) ∧
      (StaysInRange response.state.currentTickUntil.toInt second began began →
        ((live.apply response began).remainingSeconds? began).map Int64.toInt =
          some (max 0 (response.state.currentTickUntil.toInt - second))) ∧
      ∀ (other : LiveState) (ahead now ends : Int), other.lastDate ≠ some header →
        ((rest.map fun arrival => arrival.response.state).getLastD
          response.state).currentTickUntil.toInt = ends →
        StaysInRange ends second began now →
        StaysInRange ends second (began + 1000 * ahead) (now + 1000 * ahead) →
        ((other.apply response (began + 1000 * ahead)).after
            (rest.map (Arrival.ahead ahead))).remainingSeconds? (now + 1000 * ahead) =
          ((live.apply response began).after rest).remainingSeconds? now := by
  have tells : response.Tells live.lastDate second := ⟨header, there, new, date⟩
  have quiet : Quiet response.date rest := there ▸ Quiet.of_repeats repeats
  refine ⟨?_, ?_, ?_⟩
  · intro now ends last inRange
    rw [floor_second, floor_second]
    exact remainingSeconds?_after tells quiet last inRange
  · intro inRange
    -- At the moment of the response no second of the clock has passed.
    have shown := @remainingSeconds?_after live response second began [] tells trivial began _ rfl inRange
    rwa [Int.sub_self, Int.sub_zero] at shown
  · intro other ahead now ends otherNew last inRange otherInRange
    have otherTells : response.Tells other.lastDate second := ⟨header, there, otherNew, date⟩
    have otherQuiet : Quiet response.date (rest.map (Arrival.ahead ahead)) :=
      (quiet_ahead ahead).mpr quiet
    have documents : (rest.map (Arrival.ahead ahead)).map (fun arrival => arrival.response.state) =
        rest.map fun arrival => arrival.response.state := List.map_map
    have otherLast : (((rest.map (Arrival.ahead ahead)).map fun arrival =>
        arrival.response.state).getLastD response.state).currentTickUntil.toInt = ends := by
      rw [documents, last]
    -- A clock that is whole seconds ahead counts the same seconds between two moments.
    have passed : (now + 1000 * ahead) / 1000 - (began + 1000 * ahead) / 1000 =
        now / 1000 - began / 1000 := by
      omega
    have otherShown := remainingSeconds?_after otherTells otherQuiet otherLast otherInRange
    rw [passed, ← remainingSeconds?_after tells quiet last inRange] at otherShown
    -- Words that stand for the same integer are the same.
    exact Option.map_injective (fun _ _ => Int64.toInt_inj.mp) otherShown

end Countdown

/-- A response of a Sunday, with two minutes left of its tick. -/
def sundayResponse : StateResponse :=
  ⟨⟨5, .running, 784111897, 4, none⟩, some "Sun, 06 Nov 1994 08:49:37 GMT"⟩

/-- Two minutes are left on a clock that is years ahead, and on one that is a day behind that. -/
theorem countdown_same_a_day_behind :
    httpDateSecond "Sun, 06 Nov 1994 08:49:37 GMT" = .ok 784111777 ∧
      ((initial.apply sundayResponse 1000000000999).remainingSeconds? 1000000000999).map
        Int64.toInt = some 120 ∧
      (((initial.apply sundayResponse 1000000000999).after
        [⟨sundayResponse, 1000000003000⟩]).remainingSeconds? 1000000005000).map
          Int64.toInt = some 115 ∧
      ((initial.apply sundayResponse (1000000000999 + 1000 * -86400)).after
          ([⟨sundayResponse, 1000000003000⟩].map (Arrival.ahead (-86400)))).remainingSeconds?
            (1000000005000 + 1000 * -86400) =
        ((initial.apply sundayResponse 1000000000999).after
          [⟨sundayResponse, 1000000003000⟩]).remainingSeconds? 1000000005000 := by
  -- The header is told once and repeated, and each reading lies within the range of a word.
  have date : httpDateSecond "Sun, 06 Nov 1994 08:49:37 GMT" = .ok 784111777 := by
    decide
  have repeats : ∀ arrival ∈ [Arrival.mk sundayResponse 1000000003000],
      arrival.response.date = some "Sun, 06 Nov 1994 08:49:37 GMT" := by
    decide
  obtain ⟨later, first, behind⟩ := countdown_free_of_skew initial sundayResponse _ 784111777
    1000000000999 [⟨sundayResponse, 1000000003000⟩] rfl nofun date repeats
  have ends : sundayResponse.state.currentTickUntil.toInt = 784111897 := by
    decide
  refine ⟨date, ?_, ?_, behind initial (-86400) 1000000005000 784111897 nofun ends
    (by decide) (by decide)⟩
  · rw [first (by rw [ends]; decide), ends]
    decide
  · have passed : (⌊((1000000005000 : Int) : ℚ) / 1000⌋ - ⌊((1000000000999 : Int) : ℚ) / 1000⌋) =
        5 := by
      rw [floor_second, floor_second]
      decide
    rw [later 1000000005000 784111897 ends (by decide), passed]
    decide

end LiveState

end Scoreboard
