import MessageQueue.Message

/-!
# Connection settings

Where the queue service is and how a client proves who it is.  The address is the one that is given,
or follows from the region.  The key and its secret come together or not at all, and a request may
take longer than the longest wait for messages.  In diagnostics the secrets are only said to be
there.
-/

namespace MessageQueue

/-- How to reach the queue service. -/
structure ConnectionSettings where
  region : String := "us-west-2"
  /-- The address of the service, in place of the region's. -/
  endpoint : Option String := none
  accessKeyId : Option String := none
  secretAccessKey : Option String := none
  sessionToken : Option String := none
  /-- How long a request may take. -/
  requestTimeoutSeconds : UInt64 := 30
deriving DecidableEq, Repr

namespace ConnectionSettings

instance : Inhabited ConnectionSettings := ⟨{}⟩

/-- What stands for a secret in diagnostics. -/
def redacted (secret : Option String) : Option String := secret.map fun _ => "<redacted>"

instance : Shown ConnectionSettings where
  shown s := Shown.record "SqsConfig" [
    ("region", shown s.region),
    ("endpoint", shown s.endpoint),
    ("access_key_id", shown s.accessKeyId),
    ("secret_access_key", shown (redacted s.secretAccessKey)),
    ("session_token", shown (redacted s.sessionToken)),
    ("request_timeout_seconds", shown s.requestTimeoutSeconds)]

/-- A text without solidi at its end. -/
def withoutLastSolidi (text : String) : String :=
  String.ofList (text.toList.reverse.dropWhile (· = '/')).reverse

/-- The address that requests are sent to. -/
def address (s : ConnectionSettings) : String :=
  match s.endpoint with
  | some endpoint => withoutLastSolidi endpoint
  | none => "https://sqs." ++ s.region ++ ".amazonaws.com"

/-- What is wrong with the settings, if anything is. -/
def fault? (s : ConnectionSettings) : Option ConfigurationError :=
  if s.region = "" then some (.missing "region")
  else if s.accessKeyId.isSome ≠ s.secretAccessKey.isSome then
    some (.invalid "access_key_id and secret_access_key must be set together")
  else if s.requestTimeoutSeconds.toNat ≤ maxWaitSeconds.toNat then
    some (.invalid
      ("request_timeout_seconds must exceed the " ++ shown maxWaitSeconds ++ "s long-poll wait"))
  else none

/-- The settings, if nothing is wrong with them. -/
def validate (s : ConnectionSettings) : Except ConfigurationError Unit :=
  match s.fault? with
  | none => .ok ()
  | some e => .error e

end ConnectionSettings
end MessageQueue
