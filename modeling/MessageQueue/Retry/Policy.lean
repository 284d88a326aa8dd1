import MessageQueue.Duration

/-!
# Retry policies

A failed request is described by the number of the attempt, the status of the answer if there was
one, and the error code in it.  A policy says how many retries there may be, whether a given failure
is worth one, and how long to pause before it.  A pause can be exact, or random within a range, or
too long to be a duration at all.
-/

namespace MessageQueue

/-- What a policy is told about a failure. -/
structure FailedAttempt where
  /-- How many retries came before, so zero for the first request. -/
  attempt : UInt32
  /-- The status of the answer; absent if there was none. -/
  status : Option UInt16
  /-- The error code in the answer. -/
  code : Option String
deriving DecidableEq, Repr

/-- The codes by which a queue asks for fewer requests. -/
def throttlingCodes : List String :=
  ["Throttling", "ThrottlingException", "RequestThrottled", "RequestLimitExceeded"]

namespace FailedAttempt

/-- Whether the queue asked for fewer requests. -/
def isThrottled (f : FailedAttempt) : Bool :=
  f.status = some 429 || (match f.code with | some c => throttlingCodes.contains c | none => false)

/-- Whether the credentials were refused. -/
def isForbidden (f : FailedAttempt) : Bool := f.status = some 403

end FailedAttempt

/-- How long to wait. -/
inductive Pause where
  /-- So long. -/
  | exact (duration : Duration)
  /-- Between the two numbers of seconds, at random. -/
  | jittered (least greatest : Float)
  /-- There is no such duration. -/
  | unrepresentable

/-- Decides whether and when a failed request is repeated. -/
structure RetryPolicy where
  /-- The most retries after the first request. -/
  maxRetries : UInt32
  /-- Whether a failure is worth a retry, as long as some are left. -/
  shouldRetry : FailedAttempt → Bool
  /-- The pause before the retry that follows a failure. -/
  pause : FailedAttempt → Pause
  /-- The policy in diagnostics. -/
  description : String

instance : Shown RetryPolicy := ⟨RetryPolicy.description⟩

end MessageQueue
