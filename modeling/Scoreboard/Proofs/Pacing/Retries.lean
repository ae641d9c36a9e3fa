import Mathlib.Algebra.BigOperators.Intervals
import Mathlib.Algebra.BigOperators.Ring.Finset
import Scoreboard.Pacing.Retry

/-! Retries: how often a request that fails is repeated, and when each attempt starts. -/

namespace Scoreboard

variable {ε α : Type}

/-- The attempt ends in an error. -/
def Attempt.Fails (attempt : Attempt ε α) : Prop :=
  ∃ problem, attempt.outcome = .error problem

/-- A pause of less than thirty years is as long as it is meant to be. -/
theorem restFor_eq {milliseconds : Nat} (short : milliseconds ≤ longestRest) :
    restFor milliseconds = milliseconds :=
  Nat.min_eq_left short

namespace RetryPolicy

/-- When an attempt starts: the first at a moment, each further one a pause behind the last. -/
def startOf (policy : RetryPolicy) (attempts : Nat → Attempt ε α) (began : Nat) : Nat → Nat
  | 0 => began
  | retry + 1 => policy.startOf attempts began retry + (attempts retry).takes +
    restFor (policy.delayBefore (retry + 1))

/-- All attempts up to one that ends them, each of the others followed by a pause. -/
structure Paced (policy : RetryPolicy) (attempts : Nat → Attempt ε α) (began retries : Nat)
    (log : AttemptLog ε α) : Prop where
  tries : log.starts.length = retries + 1
  first : log.starts[0]? = some began
  again (retry start next : Nat) : log.starts[retry]? = some start →
    log.starts[retry + 1]? = some next →
    next = start + (attempts retry).takes + restFor (policy.delayBefore (retry + 1))
  finished : log.finished = began + ∑ retry ∈ Finset.range (retries + 1), (attempts retry).takes +
    ∑ retry ∈ Finset.range retries, restFor (policy.delayBefore (retry + 1))

/-- All attempts up to one that ends them, when no pause is cut short. -/
structure Punctual (policy : RetryPolicy) (attempts : Nat → Attempt ε α) (began retries : Nat)
    (log : AttemptLog ε α) : Prop where
  again (retry start next : Nat) : log.starts[retry]? = some start →
    log.starts[retry + 1]? = some next →
    next = start + (attempts retry).takes + (policy.base + (retry + 1) * policy.step)
  finished : log.finished = began + ∑ retry ∈ Finset.range (retries + 1), (attempts retry).takes +
    retries * policy.base + policy.step * (retries * (retries + 1) / 2)

section Runs

variable {policy : RetryPolicy} {attempts : Nat → Attempt ε α} {began retries : Nat}

/-- A pause that fits is the one that the policy asks for. -/
theorem delayBefore?_eq {retry : Nat} (fits : policy.delayBefore retry ≤ longestDelay) :
    policy.delayBefore? retry = some (policy.delayBefore retry) :=
  if_pos fits

/-- A failed attempt is followed by a pause and the next one, as long as there are retries left. -/
theorem runFrom_of_fails {retry now : Nat} (failed : (attempts retry).Fails)
    (left : retry < policy.budget) (fits : policy.delayBefore (retry + 1) ≤ longestDelay) :
    policy.runFrom attempts retry now = (policy.runFrom attempts (retry + 1)
      (now + (attempts retry).takes + restFor (policy.delayBefore (retry + 1)))).map fun later =>
        { later with starts := now :: later.starts } := by
  -- The attempt failed, a retry is left and its pause fits, so the attempts go on behind it.
  obtain ⟨problem, outcome⟩ := failed
  rw [runFrom, outcome]
  simp only [left, if_true, delayBefore?_eq fits, Option.bind_eq_bind, Option.bind_some]
  cases policy.runFrom attempts (retry + 1)
    (now + (attempts retry).takes + restFor (policy.delayBefore (retry + 1))) <;> rfl

/-- A success ends the attempts, and so does a failure when no retries are left. -/
theorem runFrom_of_ends {retry now : Nat} (ends : (attempts retry).Fails → policy.budget ≤ retry) :
    policy.runFrom attempts retry now = some ⟨[now], now + (attempts retry).takes,
      (attempts retry).outcome.mapError (RetryError.mk policy.budget)⟩ := by
  -- Either the attempt has a value, or its failure is the last one allowed.
  rw [runFrom]
  cases outcome : (attempts retry).outcome with
  | ok value => rfl
  | error problem =>
    have spent : ¬ retry < policy.budget := Nat.not_lt.mpr (ends ⟨problem, outcome⟩)
    simp only [spent, if_false]
    rfl

/-- The attempts from one on, up to the one that ends them. -/
theorem runFrom_startOf (failed : ∀ earlier < retries, (attempts earlier).Fails)
    (within : retries ≤ policy.budget)
    (ends : (attempts retries).Fails → policy.budget ≤ retries)
    (fits : ∀ retry, 1 ≤ retry → retry ≤ policy.budget → policy.delayBefore retry ≤ longestDelay)
    (left : Nat) : ∀ retry, retry + left = retries →
      policy.runFrom attempts retry (policy.startOf attempts began retry) =
        some ⟨(List.range' retry (left + 1)).map (policy.startOf attempts began),
          policy.startOf attempts began retries + (attempts retries).takes,
          (attempts retries).outcome.mapError (RetryError.mk policy.budget)⟩ := by
  -- The induction is on the number of retries that are still to come.
  induction left with
  | zero =>
    rintro retry rfl
    exact runFrom_of_ends ends
  | succ left ih =>
    intro retry parts
    -- This attempt fails with retries left, and the others start where its pause ends.
    rw [runFrom_of_fails (failed retry (by omega)) (by omega) (fits _ (by omega) (by omega))]
    have later := ih (retry + 1) (by omega)
    rw [startOf] at later
    rw [later]
    rfl

/-- An attempt starts behind all attempts and pauses before it. -/
theorem startOf_eq (policy : RetryPolicy) (attempts : Nat → Attempt ε α) (began retry : Nat) :
    policy.startOf attempts began retry = began +
      ∑ earlier ∈ Finset.range retry, (attempts earlier).takes +
      ∑ earlier ∈ Finset.range retry, restFor (policy.delayBefore (earlier + 1)) := by
  -- The induction is on the retries, each of which adds an attempt and a pause.
  induction retry with
  | zero => rfl
  | succ retry ih =>
    rw [startOf, ih, Finset.sum_range_succ, Finset.sum_range_succ]
    omega

/-- Pauses grow by a step from one to the next. -/
theorem sum_delayBefore (policy : RetryPolicy) (retries : Nat) :
    ∑ retry ∈ Finset.range retries, policy.delayBefore (retry + 1) =
      retries * policy.base + policy.step * (retries * (retries + 1) / 2) := by
  have numbers : ∑ retry ∈ Finset.range retries, (retry + 1) = retries * (retries + 1) / 2 := by
    -- The numbers from one on are those from zero on without the zero.
    have shifted := Finset.sum_range_succ' (fun retry => retry) retries
    rw [Finset.sum_range_id, Nat.add_sub_cancel, Nat.mul_comm] at shifted
    exact shifted.symm
  simp only [delayBefore]
  rw [Finset.sum_add_distrib, Finset.sum_const_nat fun _ _ => rfl, Finset.card_range,
    ← Finset.mul_sum, numbers]

/-- The moment in a place is that of the place. -/
theorem eq_of_getElem?_range (moments : Nat → Nat) {count place moment : Nat}
    (there : ((List.range count).map moments)[place]? = some moment) : moment = moments place := by
  obtain ⟨_, rfl⟩ := List.getElem?_eq_some_iff.mp there
  simp

/-- How the attempts go: each but the first starts a pause behind the one before, up to the last. -/
theorem runFrom_paced (began : Nat) (failed : ∀ earlier < retries, (attempts earlier).Fails)
    (within : retries ≤ policy.budget)
    (ends : (attempts retries).Fails → policy.budget ≤ retries)
    (fits : ∀ retry, 1 ≤ retry → retry ≤ policy.budget → policy.delayBefore retry ≤ longestDelay) :
    ∃ log, policy.runFrom attempts 0 began = some log ∧
      log.outcome = (attempts retries).outcome.mapError (RetryError.mk policy.budget) ∧
      policy.Paced attempts began retries log := by
  -- What is left from the first attempt on is the whole run.
  have run : policy.runFrom attempts 0 began = _ :=
    runFrom_startOf failed within ends fits retries 0 (Nat.zero_add _)
  rw [← List.range_eq_range'] at run
  refine ⟨_, run, rfl, by simp, by simp [startOf], ?_, ?_⟩
  · intro retry start next first second
    -- Both starts are where their places say, and the second place is one further on.
    obtain rfl := eq_of_getElem?_range _ first
    exact eq_of_getElem?_range (policy.startOf attempts began) second
  · -- The last attempt starts behind all pauses, and adds what it takes itself.
    dsimp only
    rw [startOf_eq, Finset.sum_range_succ _ retries]
    omega

/-- Pauses of less than thirty years are kept exactly. -/
theorem Paced.punctual {log : AttemptLog ε α} (paced : policy.Paced attempts began retries log)
    (short : ∀ retry, 1 ≤ retry → retry ≤ retries → policy.delayBefore retry ≤ longestRest) :
    policy.Punctual attempts began retries log := by
  -- A pause that is short enough is not cut, so each rest is as long as the policy says.
  constructor
  · intro retry start next first second
    have within : retry + 1 < log.starts.length := (List.getElem?_eq_some_iff.mp second).1
    rw [paced.tries] at within
    rw [paced.again retry start next first second,
      restFor_eq (short (retry + 1) (by omega) (by omega)), delayBefore, Nat.mul_comm]
  · have pauses : ∑ retry ∈ Finset.range retries, restFor (policy.delayBefore (retry + 1)) =
        ∑ retry ∈ Finset.range retries, policy.delayBefore (retry + 1) := by
      refine Finset.sum_congr rfl fun retry member => ?_
      exact restFor_eq (short (retry + 1) (by omega) (Finset.mem_range.mp member))
    rw [paced.finished, pauses, sum_delayBefore]
    omega

/--
A request is repeated until it succeeds or its retries are spent, after pauses that grow by a step.

The first success ends the attempts if it comes within the budget, and otherwise they end with the
last retry and its error. Every attempt but the first starts a pause behind the one before. No pause
is longer than thirty years; as long as none is meant to be, all pauses are exact, and so is the
moment at which the last attempt ends.
-/
theorem retried_until_success_or_spent (policy : RetryPolicy) (attempts : Nat → Attempt ε α)
    (began : Nat)
    (fits : ∀ retry, 1 ≤ retry → retry ≤ policy.budget → policy.delayBefore retry ≤ longestDelay) :
    (∀ retries value, (∀ earlier < retries, (attempts earlier).Fails) →
        (attempts retries).outcome = .ok value → retries ≤ policy.budget →
        ∃ log, policy.runFrom attempts 0 began = some log ∧ log.outcome = .ok value ∧
          policy.Paced attempts began retries log ∧
          ((∀ retry, 1 ≤ retry → retry ≤ retries → policy.delayBefore retry ≤ longestRest) →
            policy.Punctual attempts began retries log)) ∧
      ((∀ retry ≤ policy.budget, (attempts retry).Fails) →
        ∃ log problem, policy.runFrom attempts 0 began = some log ∧
          (attempts policy.budget).outcome = .error problem ∧
          log.outcome = .error ⟨policy.budget, problem⟩ ∧
          policy.Paced attempts began policy.budget log ∧
          ((∀ retry, 1 ≤ retry → retry ≤ policy.budget → policy.delayBefore retry ≤ longestRest) →
            policy.Punctual attempts began policy.budget log)) := by
  constructor
  · intro retries value failed success within
    have ends : (attempts retries).Fails → policy.budget ≤ retries := by
      rintro ⟨problem, failure⟩
      cases success.symm.trans failure
    obtain ⟨log, run, outcome, paced⟩ := runFrom_paced began failed within ends fits
    rw [success] at outcome
    exact ⟨log, run, outcome, paced, paced.punctual⟩
  · intro failed
    -- The attempt behind the last retry fails too, and there is none left behind it.
    obtain ⟨problem, failure⟩ := failed policy.budget (Nat.le_refl _)
    obtain ⟨log, run, outcome, paced⟩ := runFrom_paced began
      (fun earlier before => failed earlier (Nat.le_of_lt before)) (Nat.le_refl policy.budget)
      (fun _ => Nat.le_refl _) fits
    rw [failure] at outcome
    exact ⟨log, problem, run, failure, outcome, paced, paced.punctual⟩

end Runs

/-- Two failures, and then successes. -/
def thirdTime : Nat → Attempt String Nat
  | 0 => ⟨.error "connection reset", 10⟩
  | 1 => ⟨.error "connection closed", 20⟩
  | _ => ⟨.ok 7, 30⟩

/-- A request that fails twice is answered at its third attempt, behind two growing pauses. -/
theorem third_attempt_answers_in_time :
    (∀ retry, 1 ≤ retry → retry ≤ 3 →
        (RetryPolicy.mk 1000 1500 3).delayBefore retry ≤ longestDelay) ∧
      ∃ log, (RetryPolicy.mk 1000 1500 3).runFrom thirdTime 0 0 = some log ∧
        log.outcome = .ok 7 ∧ log.starts.length = 3 ∧
        log.finished = (10 + 20 + 30) + 2 * 1000 + 1500 * 3 := by
  -- Two attempts fail and the third one answers, and no pause comes near thirty years.
  have fits : ∀ retry, 1 ≤ retry → retry ≤ 3 →
      (RetryPolicy.mk 1000 1500 3).delayBefore retry ≤ longestDelay := by
    intro retry _ within
    simp only [delayBefore, longestDelay]
    omega
  have short : ∀ retry, 1 ≤ retry → retry ≤ 2 →
      (RetryPolicy.mk 1000 1500 3).delayBefore retry ≤ longestRest := by
    intro retry _ within
    simp only [delayBefore, longestRest]
    omega
  have failed : ∀ earlier < 2, (thirdTime earlier).Fails := by
    intro earlier before
    match earlier with
    | 0 => exact ⟨_, rfl⟩
    | 1 => exact ⟨_, rfl⟩
  obtain ⟨log, run, outcome, paced, punctual⟩ :=
    (retried_until_success_or_spent (RetryPolicy.mk 1000 1500 3) thirdTime 0 fits).1 2 7 failed rfl
      (by decide)
  exact ⟨fits, log, run, outcome, paced.tries, (punctual short).finished⟩

/-- A failure, and then successes. -/
def secondTime : Nat → Attempt String Nat
  | 0 => ⟨.error "connection reset", 0⟩
  | _ => ⟨.ok 5, 0⟩

/-- A pause that is meant to last a millisecond longer than thirty years is cut short. -/
theorem thirty_years_cut_pause_short :
    (RetryPolicy.mk 946080000001 0 1).delayBefore 1 ≤ longestDelay ∧
      ∃ log, (RetryPolicy.mk 946080000001 0 1).runFrom secondTime 0 0 = some log ∧
        log.starts = [0, 946080000000] ∧
        ¬ (RetryPolicy.mk 946080000001 0 1).Punctual secondTime 0 1 log := by
  -- The pause is cut to thirty years, and the second attempt starts a millisecond too soon.
  have fits : (RetryPolicy.mk 946080000001 0 1).delayBefore 1 ≤ longestDelay := by decide
  have second : (RetryPolicy.mk 946080000001 0 1).runFrom secondTime 1 946080000000 =
      some ⟨[946080000000], 946080000000, .ok 5⟩ := runFrom_of_ends fun _ => Nat.le_refl 1
  have run : (RetryPolicy.mk 946080000001 0 1).runFrom secondTime 0 0 =
      some ⟨[0, 946080000000], 946080000000, .ok 5⟩ :=
    (runFrom_of_fails ⟨_, rfl⟩ (by decide) fits).trans (congrArg (Option.map _) second)
  refine ⟨fits, _, run, rfl, fun punctual => ?_⟩
  exact absurd (punctual.again 0 0 946080000000 rfl rfl) (by decide)

end RetryPolicy

end Scoreboard
