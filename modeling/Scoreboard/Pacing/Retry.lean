/-! Repeating a request that fails, after pauses that grow by a fixed step. -/

namespace Scoreboard

/-- How often a failed request is repeated, and after which pauses. -/
structure RetryPolicy where
  /-- The fixed part of every pause, in milliseconds. -/
  base : Nat
  /-- What every retry adds to the pause, in milliseconds. -/
  step : Nat
  /-- How many retries there are. -/
  budget : Nat
deriving DecidableEq, Repr

/-- The step of a policy that names none. -/
def defaultRetryStep : Nat := 1500

/-- A request that failed for good: how often it was repeated, and how it failed last. -/
structure RetryError (ε : Type) where
  retries : Nat
  last : ε
deriving DecidableEq, Repr

/-- The wording of a request that failed for good. -/
def RetryError.message {ε : Type} (failure : RetryError ε) : String :=
  "request failed after " ++ toString failure.retries ++ " retries"

namespace RetryPolicy

/-- The pause before a retry, the first retry being number one. -/
def delayBefore (policy : RetryPolicy) (retry : Nat) : Nat :=
  policy.base + policy.step * retry

/-- The longest pause a clock can hold, in milliseconds: sixty-four bits of seconds. -/
def longestDelay : Nat :=
  0x10000000000000000 * 1000 - 1

/-- The pause before a retry, none when no clock can hold it. -/
def delayBefore? (policy : RetryPolicy) (retry : Nat) : Option Nat :=
  if policy.delayBefore retry ≤ longestDelay then some (policy.delayBefore retry) else none

end RetryPolicy

/-- The longest rest anybody takes, in milliseconds: thirty years of 365 days. -/
def longestRest : Nat := 30 * 365 * 86400 * 1000

/-- How long a rest lasts that is meant to last so many milliseconds. -/
def restFor (milliseconds : Nat) : Nat :=
  min milliseconds longestRest

/-- One attempt at a request: how it ends, and after how many milliseconds. -/
structure Attempt (ε α : Type) where
  outcome : Except ε α
  takes : Nat

/-- An attempt that is a rest of so many milliseconds, and ends as given. -/
def Attempt.asRest {ε α : Type} (attempt : Attempt ε α) : Attempt ε α :=
  { attempt with takes := restFor attempt.takes }

/-- All attempts at a request: when each began, when the last one ended, and how. -/
structure AttemptLog (ε α : Type) where
  starts : List Nat
  finished : Nat
  outcome : Except (RetryError ε) α

/-- The attempts from a retry on, begun at a moment; none when a pause is too long for any clock. -/
def RetryPolicy.runFrom {ε α : Type} (policy : RetryPolicy) (attempts : Nat → Attempt ε α)
    (retry now : Nat) : Option (AttemptLog ε α) :=
  -- A success ends the run, and so does a failure once the budget is spent.
  let ended := now + (attempts retry).takes
  match (attempts retry).outcome with
  | .ok value => some ⟨[now], ended, .ok value⟩
  | .error problem =>
    if retry < policy.budget then do
      let pause ← policy.delayBefore? (retry + 1)
      let later ← policy.runFrom attempts (retry + 1) (ended + restFor pause)
      some { later with starts := now :: later.starts }
    else some ⟨[now], ended, .error ⟨policy.budget, problem⟩⟩
termination_by policy.budget - retry

/-- All attempts at a request begun at moment zero, when each attempt is a rest. -/
def RetryPolicy.run {ε α : Type} (policy : RetryPolicy) (attempts : Nat → Attempt ε α) :
    Option (AttemptLog ε α) :=
  policy.runFrom (fun retry => (attempts retry).asRest) 0 0

end Scoreboard
