import MessageQueue.Wire.Failure

/-!
# Repeating an exchange

An exchange is repeated for as long as it fails, the policy finds the failure worth a retry, and
retries are left.  The recursion is on the retries that are left; the number of the attempt and they
always add up to the retries that the policy allows, so the number cannot run over.
-/

namespace MessageQueue

/-- What a policy decides on a failure: the pause before a retry, or none if there is no retry. -/
def RetryPolicy.verdict (policy : RetryPolicy) (failed : FailedAttempt) : Option Pause :=
  if policy.shouldRetry failed then some (policy.pause failed) else none

/-- Makes an exchange until it succeeds or is not repeated any more.  Each verdict of the policy is
carried out by `decided`, which waits for the pause. -/
def retrying {m : Type → Type} [Monad m] {α : Type} (policy : RetryPolicy)
    (decided : FailedAttempt → Option Pause → m Unit) (exchange : m (Except ExchangeFailure α)) :
    Nat → UInt32 → m (Except QueueError α)
  | left, attempt => do
    match ← exchange with
    | .ok answer => pure (.ok answer)
    | .error failure =>
      match left with
      | 0 => pure (.error failure.toQueueError)
      | left + 1 =>
        let failed := failure.failedAttempt attempt
        let verdict := policy.verdict failed
        decided failed verdict
        match verdict with
        | none => pure (.error failure.toQueueError)
        | some _ => retrying policy decided exchange left (attempt + 1)

end MessageQueue
