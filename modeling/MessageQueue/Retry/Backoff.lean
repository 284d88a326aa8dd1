import MessageQueue.Retry.Policy

/-!
# Pauses that grow

Under this policy a request is repeated when it got no answer, when the queue asked for fewer
requests, or when the queue itself failed.  The pause before the first retry is `initialDelay`; each
further one is longer by the factor `multiplier`, up to `maxDelay`.  With jitter the pause is then
drawn at random from the range that lies `jitterPercent` of it to either side.

The powers of the factor are computed by repeated squaring in floating point, in a fixed order, so
that all digits of a pause are determined.
-/

namespace MessageQueue

/-- The parameters of the policy. -/
structure Backoff where
  maxRetries : UInt32 := 7
  initialDelay : Duration := .ofMilliseconds 30
  maxDelay : Duration := .ofSeconds 300
  multiplier : Float := 2.0
  useJitter : Bool := true
  /-- The width of the range to either side, as a part of the pause. -/
  jitterPercent : Float := 0.25

namespace Backoff

/-- The policy that is used when nothing else is asked for. -/
def standard : Backoff := {}

/-- The standard policy with another number of retries. -/
def withMaxRetries (maxRetries : UInt32) : Backoff := { maxRetries }

/-- The same policy with exact pauses. -/
def withoutJitter (b : Backoff) : Backoff := { b with useJitter := false }

/-- A number brought between two others; no number stays as it is. -/
def clamp (x least greatest : Float) : Float :=
  if x < least then least else if greatest < x then greatest else x

/-- The same policy with another range, of at most the whole pause. -/
def withJitterPercent (b : Backoff) (percent : Float) : Backoff :=
  { b with jitterPercent := clamp percent 0.0 1.0 }

/-- The power `base ^ exponent` times `done`, by repeated squaring; `fuel` bounds the bits of the
exponent. -/
def power (done base : Float) (exponent : Nat) : Nat → Float
  | 0 => done
  | fuel + 1 =>
    let done := if exponent % 2 = 1 then done * base else done
    if exponent / 2 = 0 then done else power done (base * base) (exponent / 2) fuel

/-- The smaller of two numbers; the other one if one is no number. -/
def smaller (x y : Float) : Float := if x.isNaN then y else if y < x then y else x

/-- The pause in seconds before jitter.  The exponent stops growing at 2³¹ - 1. -/
def seconds (b : Backoff) (attempt : UInt32) : Float :=
  smaller
    (b.initialDelay.toFloat * power 1.0 b.multiplier (min attempt.toNat (Nat.pow 2 31 - 1)) 32)
    b.maxDelay.toFloat

/-- So many seconds, if that is a duration. -/
def exactly (seconds : Float) : Pause :=
  match Duration.ofFloat? seconds with
  | some d => .exact d
  | none => .unrepresentable

/-- The pause before the retry after an attempt. -/
def delay (b : Backoff) (attempt : UInt32) : Pause :=
  let s := b.seconds attempt
  if b.useJitter then
    let range := s * b.jitterPercent
    if range ≤ 0.0 then exactly s
    else if range.isNaN || range.isInf then .unrepresentable
    else .jittered (s - range) (s + range)
  else exactly s

/-- Whether a failure is worth a retry. -/
def shouldRetry (f : FailedAttempt) : Bool :=
  match f.status with
  | none => true
  | some status => f.isThrottled || 500 ≤ status

instance : Shown Backoff where
  shown b := Shown.record "BackoffRetryPolicy" [
    ("max_retries", shown b.maxRetries),
    ("initial_delay", shown b.initialDelay),
    ("max_delay", shown b.maxDelay),
    ("backoff_multiplier", Decimal.text b.multiplier),
    ("use_jitter", shown b.useJitter),
    ("jitter_percent", Decimal.text b.jitterPercent)]

/-- The policy. -/
def policy (b : Backoff) : RetryPolicy where
  maxRetries := b.maxRetries
  shouldRetry := shouldRetry
  pause f := b.delay f.attempt
  description := shown b

end Backoff
end MessageQueue
