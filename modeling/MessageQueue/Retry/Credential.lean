import MessageQueue.Retry.Backoff

/-!
# Retries while credentials settle

New credentials take a moment until the queue accepts them.  This policy repeats every request that
was refused for its credentials, after a fixed pause, and leaves all else to another policy.
-/

namespace MessageQueue

/-- The parameters of the policy. -/
structure CredentialRetry where
  /-- What decides on all other failures, and how many retries there are. -/
  inner : RetryPolicy
  /-- The pause after a refusal. -/
  delay : Duration

namespace CredentialRetry

/-- Over the standard policy, with a pause of two seconds. -/
def standard : CredentialRetry := ⟨Backoff.standard.policy, .ofSeconds 2⟩

/-- Over the standard policy with another number of retries. -/
def withRetries (delay : Duration) (maxRetries : UInt32) : CredentialRetry :=
  ⟨(Backoff.withMaxRetries maxRetries).policy, delay⟩

instance : Shown CredentialRetry where
  shown c :=
    Shown.record "CredentialRetryPolicy" [("inner", shown c.inner), ("delay", shown c.delay)]

/-- The policy. -/
def policy (c : CredentialRetry) : RetryPolicy where
  maxRetries := c.inner.maxRetries
  shouldRetry f := f.isForbidden || c.inner.shouldRetry f
  pause f := if f.isForbidden then .exact c.delay else c.inner.pause f
  description := shown c

end CredentialRetry
end MessageQueue
