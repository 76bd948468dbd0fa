import ClusterDiscovery.Number.Binary64
import ClusterDiscovery.Session

/-! # Retries

A failed attempt is repeated after a pause that doubles from one attempt to the next. A failure
with a status from 400 to 499 is final: the answer will not change on a second attempt. -/

namespace ClusterDiscovery

structure RetryPolicy where
  /-- There is always a first attempt. -/
  maxAttempts : Int := 3
  /-- The seconds before the second attempt. -/
  factor : Float := 1.5
  longestPause : Float := 60.0

namespace RetryPolicy

def repetitions (policy : RetryPolicy) : Nat := (policy.maxAttempts - 1).toNat

/-- The largest exponent of two that a pause is computed with. -/
def maxExponent : Nat := 1023

/-- The seconds to wait after an attempt. Attempts count from one. -/
def pauseAfter (policy : RetryPolicy) (attempt : Nat) : Float :=
  let exponent := attempt - 1
  let doubled :=
    if exponent > maxExponent then policy.longestPause
    else policy.factor * Number.ofInt (Nat.pow 2 exponent)
  let pause := if policy.longestPause < doubled then policy.longestPause else doubled
  if pause > 0.0 then pause else 0.0

end RetryPolicy

/-- A status that says that the request itself is at fault. -/
def isFinalStatus : Datum → Bool
  | .int status => 400 ≤ status && status < 500
  | _ => false

/-- Whether another attempt may help. -/
def Failure.isRetryable (f : Failure) : Bool :=
  match f.status? with
  | some status => !isFinalStatus status
  | none => true

variable {World α : Type}

/-- Makes an attempt, and at most `repetitions` more after it. -/
def retryFrom (policy : RetryPolicy) (action : Action World α) (attempt : Nat) :
    Nat → Action World α
  | 0 => action
  | repetitions + 1 => do
    match ← action.outcomeOf with
    | .ok a => return a
    | .error f =>
      if f.isRetryable then
        Action.waitFor (policy.pauseAfter attempt)
        retryFrom policy action (attempt + 1) repetitions
      else throw f

def retrying (policy : RetryPolicy) (action : Action World α) : Action World α :=
  retryFrom policy action 1 policy.repetitions

end ClusterDiscovery
