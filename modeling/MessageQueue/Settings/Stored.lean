import MessageQueue.Json.Basic
import MessageQueue.Settings.Connection
import MessageQueue.Settings.Consumer

/-!
# Values stored as JSON

Identifiers, attributes and settings are written as JSON and read back strictly: a number is an
integer in range, a text is a string, and nothing is converted.  A record is an object whose members
are its fields, in any order and each at most once, among others that are passed over; it may also
be an array of its fields in their order, of which the last may be missing.  A field that is not
there has its default; only the queue URL has none.
-/

namespace MessageQueue

/-! ## Records -/

namespace Record

/-- The fields of a record that are there. -/
def fields? (names : List String) : Json → Option (List (String × Json))
  | .object members =>
    let known := members.filter fun m => names.contains m.1
    if (known.map (·.1)).Nodup then some known else none
  | .array items => if names.length < items.length then none else some (names.zip items)
  | _ => none

/-- Reads one field, which may be missing if it has a default. -/
def field {α : Type} (found : List (String × Json)) (name : String) (read : Json → Option α)
    (default : Option α) : Option α :=
  match Json.member? name found with
  | some j => read j
  | none => default

/-- A field that may be `null`. -/
def optional {α : Type} (read : Json → Option α) : Json → Option (Option α)
  | .null => some none
  | j => (read j).map some

/-- A number of 32 bits. -/
def count32 (j : Json) : Option UInt32 := (j.asNatBelow? (Nat.pow 2 32)).map UInt32.ofNat

/-- A number of 64 bits. -/
def count64 (j : Json) : Option UInt64 := (j.asNatBelow? (Nat.pow 2 64)).map UInt64.ofNat

/-- A text or `null`. -/
def ofOption (text : Option String) : Json :=
  match text with
  | some t => .text t
  | none => .null

end Record

/-! ## Identifiers and attributes -/

namespace QueueUrl

def toJson (u : QueueUrl) : Json := .text u.text

def ofJson? (j : Json) : Option QueueUrl := j.asText?.bind fun t => (parse t).toOption

end QueueUrl

namespace MessageId

def toJson (i : MessageId) : Json := .text i.text

def ofJson? (j : Json) : Option MessageId := j.asText?.map MessageId.mk

end MessageId

namespace Attributes

def toJson (a : Attributes) : Json :=
  .object (a.toList.map fun (name, values) => (name, .array (values.map .text)))

/-- Reads attributes; of a name that is repeated the last list counts. -/
def ofJson? (j : Json) : Option Attributes :=
  let named (m : String × Json) : Option (String × List String) :=
    (m.2.asArray?.bind (·.mapM Json.asText?)).map fun values => (m.1, values)
  (j.asObject?.bind (·.mapM named)).map fun pairs => ⟨.ofList pairs⟩

end Attributes

/-! ## Settings -/

namespace ConnectionSettings

open Record

def fieldNames : List String :=
  ["region", "endpoint", "access_key_id", "secret_access_key", "session_token",
    "request_timeout_seconds"]

def toJson (s : ConnectionSettings) : Json :=
  .object [
    ("region", .text s.region),
    ("endpoint", ofOption s.endpoint),
    ("access_key_id", ofOption s.accessKeyId),
    ("secret_access_key", ofOption s.secretAccessKey),
    ("session_token", ofOption s.sessionToken),
    ("request_timeout_seconds", .ofNat s.requestTimeoutSeconds.toNat)]

def ofJson? (j : Json) : Option ConnectionSettings := do
  let found ← fields? fieldNames j
  let unset : ConnectionSettings := {}
  let region ← field found "region" Json.asText? unset.region
  let endpoint ← field found "endpoint" (optional Json.asText?) (some none)
  let accessKeyId ← field found "access_key_id" (optional Json.asText?) (some none)
  let secretAccessKey ← field found "secret_access_key" (optional Json.asText?) (some none)
  let sessionToken ← field found "session_token" (optional Json.asText?) (some none)
  let requestTimeoutSeconds ← field found "request_timeout_seconds" count64
      unset.requestTimeoutSeconds
  pure { region, endpoint, accessKeyId, secretAccessKey, sessionToken, requestTimeoutSeconds }

end ConnectionSettings

namespace CredentialSettings

open Record

def fieldNames : List String := ["delay_seconds", "max_attempts"]

def toJson (s : CredentialSettings) : Json :=
  .object
    [("delay_seconds", .ofNat s.delaySeconds.toNat), ("max_attempts", .ofNat s.maxAttempts.toNat)]

def ofJson? (j : Json) : Option CredentialSettings := do
  let found ← fields? fieldNames j
  let unset : CredentialSettings := {}
  let delaySeconds ← field found "delay_seconds" count64 unset.delaySeconds
  let maxAttempts ← field found "max_attempts" count32 unset.maxAttempts
  pure { delaySeconds, maxAttempts }

end CredentialSettings

namespace ConsumerSettings

open Record

def fieldNames : List String :=
  ["queue_url", "max_concurrency", "retry_timeout_seconds", "max_messages", "wait_time_seconds",
    "shutdown_poll_interval_ms", "credential_retry"]

def toJson (s : ConsumerSettings) : Json :=
  .object [
    ("queue_url", s.queueUrl.toJson),
    ("max_concurrency", .ofNat s.maxConcurrency.toNat),
    ("retry_timeout_seconds", .ofNat s.retryTimeoutSeconds.toNat),
    ("max_messages", .ofNat s.maxMessages.toNat),
    ("wait_time_seconds", .ofNat s.waitSeconds.toNat),
    ("shutdown_poll_interval_ms", .ofNat s.shutdownPollMilliseconds.toNat),
    ("credential_retry", s.credentialRetry.toJson)]

def ofJson? (j : Json) : Option ConsumerSettings := do
  let found ← fields? fieldNames j
  let queueUrl ← field found "queue_url" QueueUrl.ofJson? none
  let unset : ConsumerSettings := { queueUrl }
  let maxConcurrency ← field found "max_concurrency" count64 unset.maxConcurrency
  let retryTimeoutSeconds ← field found "retry_timeout_seconds" count32 unset.retryTimeoutSeconds
  let maxMessages ← field found "max_messages" count32 unset.maxMessages
  let waitSeconds ← field found "wait_time_seconds" count32 unset.waitSeconds
  let shutdownPollMilliseconds ← field found "shutdown_poll_interval_ms" count64
      unset.shutdownPollMilliseconds
  let credentialRetry ← field found "credential_retry" CredentialSettings.ofJson?
      unset.credentialRetry
  pure { queueUrl, maxConcurrency, retryTimeoutSeconds, maxMessages, waitSeconds,
         shutdownPollMilliseconds, credentialRetry }

end ConsumerSettings
end MessageQueue
