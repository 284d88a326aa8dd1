import MessageQueue.Client.Retrying
import MessageQueue.Queue
import MessageQueue.Retry.Credential
import MessageQueue.Settings.Connection
import MessageQueue.Signature
import MessageQueue.Wire.Answer
import MessageQueue.Wire.Form

/-!
# Clients of the queue service

A client knows the address of the service, who signs its requests, and how failures are retried.
Each request is a form that is posted to the address, signed if there are credentials, and its
answer is read according to the action.  What the network does is a parameter.
-/

namespace MessageQueue

/-! ## The network -/

/-- A request as it is posted. -/
structure HttpRequest where
  url : Url
  headers : List (String × String)
  body : String

/-- An answer as it comes back. -/
structure HttpAnswer where
  status : UInt16
  body : String
deriving DecidableEq, Repr

/-- What a client needs of the world. -/
structure Transport (m : Type → Type) where
  /-- The current time. -/
  now : m Timestamp
  /-- Posts a request; the error says why there is no answer. -/
  post : HttpRequest → m (Except String HttpAnswer)
  /-- Carries out a verdict on a failure: waits for the pause, if there is one. -/
  decided : FailedAttempt → Option Pause → m Unit

/-! ## Clients -/

/-- A client. -/
structure Client where
  endpoint : Url
  /-- The host of the address, with its port. -/
  host : String
  /-- Who signs requests; absent if they go out unsigned. -/
  signer : Option Signer
  /-- How long a request may take. -/
  timeoutSeconds : UInt64
  policy : RetryPolicy

namespace Client

/-- Who signs under these settings. -/
def signerOf (s : ConnectionSettings) : Option Signer :=
  match s.accessKeyId, s.secretAccessKey with
  | some accessKey, some secretKey => some ⟨accessKey, secretKey, s.sessionToken, s.region⟩
  | _, _ => none

/-- The address of the service under these settings. -/
def endpointOf (s : ConnectionSettings) : Except QueueError Url :=
  match Url.parse s.address with
  | .error e => .error (.configuration (.invalid ("invalid SQS endpoint: " ++ e.message)))
  | .ok url =>
    if url.host = [] then
      .error (.configuration (.invalid ("SQS endpoint '" ++ url.text ++ "' has no host")))
    else .ok url

/-- A client for valid settings.  Unless it is told otherwise it retries refused credentials. -/
def connect (s : ConnectionSettings) : Except QueueError Client :=
  match s.fault? with
  | some e => .error (.configuration e)
  | none =>
    match endpointOf s with
    | .error e => .error e
    | .ok endpoint =>
      .ok {
        endpoint
        host := String.ofList endpoint.hostText
        signer := signerOf s
        timeoutSeconds := s.requestTimeoutSeconds
        policy := CredentialRetry.standard.policy }

/-- The same client under another policy. -/
def withPolicy (c : Client) (policy : RetryPolicy) : Client := { c with policy }

/-- The same client, retrying refused credentials with a pause, so many times in all. -/
def withRetries (c : Client) (delay : Duration) (maxRetries : UInt32) : Client :=
  c.withPolicy (CredentialRetry.withRetries delay maxRetries).policy

instance : Shown Client where
  shown c := Shown.record "SqsClient" [
    ("endpoint", shown c.endpoint.text),
    ("signed", shown c.signer.isSome),
    ("retry_policy", shown c.policy)]

/-! ## Requests -/

/-- The media type of forms. -/
def formType : String := "application/x-www-form-urlencoded; charset=utf-8"

/-- What is signed of a form that is posted. -/
def signedRequest (c : Client) (form : String) (time : Timestamp) : SignedRequest :=
  { method := "POST"
    host := c.host
    path := String.ofList c.endpoint.path
    query := ""
    body := form
    time }

/-- The request that posts a form at a time. -/
def request (c : Client) (form : String) (time : Timestamp) : HttpRequest :=
  { url := c.endpoint
    headers := ("content-type", formType) ::
      match c.signer with
      | some signer => signer.headers Sha256.digest (c.signedRequest form time)
      | none => []
    body := form }

/-- What an answer says: its body, or the error that it reports. -/
def outcome (answer : HttpAnswer) : Except ExchangeFailure String :=
  if 200 ≤ answer.status.toNat ∧ answer.status.toNat < 300 then .ok answer.body
  else .error (Answer.failure answer.status answer.body)

variable {m : Type → Type} [Monad m]

/-- Posts a form once. -/
def exchange (t : Transport m) (c : Client) (form : String) :
    m (Except ExchangeFailure String) := do
  let time ← t.now
  match ← t.post (c.request form time) with
  | .error message => pure (.error (.network message))
  | .ok answer => pure (outcome answer)

/-- Posts a form under the policy of the client. -/
def call (t : Transport m) (c : Client) (action : String) (form : Form) :
    m (Except QueueError String) :=
  retrying c.policy t.decided (c.exchange t (form.forAction action).text)
    c.policy.maxRetries.toNat 0

/-- The answer, read; what cannot be read is reported like a failure. -/
def reading {α : Type} (read : String → Except ExchangeFailure α)
    (answer : Except QueueError String) :
    Except QueueError α :=
  match answer with
  | .error e => .error e
  | .ok document =>
    match read document with
    | .ok value => .ok value
    | .error e => .error e.toQueueError

/-- The queue service as this client reaches it. -/
def service (t : Transport m) (c : Client) : QueueService m where
  receive r := do return reading Answer.received (← c.call t "ReceiveMessage" (.receive r))
  changeVisibility queueUrl receipt seconds := do
    let form := Form.changeVisibility queueUrl receipt seconds
    return reading (fun _ => .ok ()) (← c.call t "ChangeMessageVisibility" form)
  delete queueUrl receipt := do
    return reading (fun _ => .ok ()) (← c.call t "DeleteMessage" (.delete queueUrl receipt))
  send r :=
    if maxMessageSize < r.size then pure (.error (.messageTooLarge r.size maxMessageSize))
    else do return reading Answer.sent (← c.call t "SendMessage" (.send r))

end Client
end MessageQueue
