import MessageQueue.Message
import MessageQueue.Retry.Credential

/-!
# Consumer settings

What a consumer receives from which queue, how many messages it handles at once, and how it shuts
down.  The settings for refused credentials are a record of their own inside them.
-/

namespace MessageQueue

/-- The most handlers that a gate can be made for. -/
def maxConcurrency : UInt64 := 2305843009213693951

/-- The most seconds for which a message can be hidden. -/
def maxVisibilitySeconds : UInt32 := 43200

/-- How refused credentials are retried. -/
structure CredentialSettings where
  delaySeconds : UInt64 := 2
  maxAttempts : UInt32 := 7
deriving DecidableEq, Repr

namespace CredentialSettings

/-- The policy that the settings describe. -/
def policy (s : CredentialSettings) : CredentialRetry :=
  .withRetries (.ofSeconds s.delaySeconds.toNat) s.maxAttempts

end CredentialSettings

/-- How a consumer works. -/
structure ConsumerSettings where
  queueUrl : QueueUrl
  /-- The most handlers that run at once. -/
  maxConcurrency : UInt64 := 1
  /-- How long a message stays hidden after its handler failed. -/
  retryTimeoutSeconds : UInt32 := 30
  /-- The most messages to ask for at once. -/
  maxMessages : UInt32 := maxBatch
  /-- How long a request waits for messages. -/
  waitSeconds : UInt32 := maxWaitSeconds
  /-- How often a shutdown looks whether all handlers have finished. -/
  shutdownPollMilliseconds : UInt64 := 500
  credentialRetry : CredentialSettings := {}
deriving DecidableEq

namespace ConsumerSettings

/-- The same settings with other retries of refused credentials.  The settings count whole
seconds. -/
def withCredentialRetry (s : ConsumerSettings) (delay : Duration) (maxAttempts : UInt32) :
    ConsumerSettings :=
  { s with credentialRetry := ⟨UInt64.ofNat (min delay.seconds (Nat.pow 2 64 - 1)), maxAttempts⟩ }

/-- The same settings with another interval of the shutdown, in whole milliseconds. -/
def withShutdownPoll (s : ConsumerSettings) (interval : Duration) : ConsumerSettings :=
  { s with shutdownPollMilliseconds := UInt64.ofNat (min interval.milliseconds (Nat.pow 2 64 - 1)) }

/-- The same settings with another wait for messages. -/
def withWait (s : ConsumerSettings) (waitSeconds : UInt32) : ConsumerSettings :=
  { s with waitSeconds }

/-- How often a shutdown looks: never more often than every millisecond. -/
def shutdownPoll (s : ConsumerSettings) : Duration :=
  .ofMilliseconds (max s.shutdownPollMilliseconds.toNat 1)

/-- What is wrong with the settings, if anything is. -/
def fault? (s : ConsumerSettings) : Option ConfigurationError :=
  if MessageQueue.maxConcurrency < s.maxConcurrency then
    some (.invalid ("max_concurrency must not exceed " ++ shown MessageQueue.maxConcurrency))
  else if s.maxMessages = 0 ∨ maxBatch < s.maxMessages then
    some (.invalid ("max_messages must be between 1 and " ++ shown maxBatch))
  else if maxWaitSeconds < s.waitSeconds then
    some (.invalid ("wait_time_seconds must not exceed " ++ shown maxWaitSeconds))
  else if maxVisibilitySeconds < s.retryTimeoutSeconds then
    some (.invalid ("retry_timeout_seconds must not exceed " ++ shown maxVisibilitySeconds))
  else none

/-- The settings, if nothing is wrong with them. -/
def validate (s : ConsumerSettings) : Except ConfigurationError Unit :=
  match s.fault? with
  | none => .ok ()
  | some e => .error e

end ConsumerSettings
end MessageQueue
