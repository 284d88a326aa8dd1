import MessageQueue.Client.Basic
import MessageQueue.Duration
import MessageQueue.Span

/-!
# Writers

A writer collects one message and publishes it when it is closed.  Closing has two halves with the
sending between them: the first takes what has been collected and marks the writer as closed, so
that whatever happens while the message is under way finds it closed; the second turns the answer of
the queue into that of the close.  A writer whose message could not be sent stays closed.
-/

namespace MessageQueue

/-- A message that is being collected. -/
structure Writer where
  queueUrl : QueueUrl
  /-- What has been written and not yet taken. -/
  buffer : Bytes
  attributes : Attributes
  delay : Duration
  closed : Bool
deriving DecidableEq

namespace Writer

/-- A writer to which nothing has been written. -/
def new (queueUrl : QueueUrl) : Writer := ⟨queueUrl, [], .empty, ⟨0⟩, false⟩

instance : Shown Writer where
  shown w := Shown.record "MessageWriter" [
    ("queue_url", shown w.queueUrl),
    ("buffered_bytes", shown w.buffer.length),
    ("attributes", shown w.attributes),
    ("delay", shown w.delay),
    ("closed", shown w.closed)]

/-- Changes a writer that is open. -/
def whileOpen (w : Writer) (change : Writer → Writer) : Except WriterError Writer :=
  if w.closed then .error .closed else .ok (change w)

/-- Puts octets behind those written before. -/
def write (w : Writer) (data : Bytes) : Except WriterError Writer :=
  w.whileOpen fun w => { w with buffer := w.buffer ++ data }

/-- Writes all octets to a stream that ends in the writer; no octets need no writing. -/
def writeAll (w : Writer) (data : Bytes) : Except WriterError Writer :=
  if data.isEmpty then .ok w else w.write data

/-- Replaces all values of an attribute by one. -/
def setAttribute (w : Writer) (name value : String) : Except WriterError Writer :=
  w.whileOpen fun w => { w with attributes := w.attributes.set name value }

/-- Puts a value behind those of an attribute. -/
def addAttribute (w : Writer) (name value : String) : Except WriterError Writer :=
  w.whileOpen fun w => { w with attributes := w.attributes.add name value }

/-- Delays the message by the whole seconds of a span, within what a queue grants. -/
def setDelay (w : Writer) (delay : Span) : Except WriterError Writer :=
  w.whileOpen fun w => { w with delay := .ofSeconds (delay.secondsWithin maxDelaySeconds) }

/-- The request that sends what has been collected, if its body is a text. -/
def request (w : Writer) : Except SerializationError SendRequest :=
  match Utf8.decode? w.buffer with
  | none => .error .invalidUtf8
  | some body =>
    .ok {
      queueUrl := w.queueUrl
      body
      delaySeconds := UInt32.ofNat w.delay.seconds
      attributes := w.attributes.toSend }

/-- The first half of a close: the writer, marked and emptied, and what is to be sent. -/
def beginClose (w : Writer) : Except WriterError (Writer × Except SerializationError SendRequest) :=
  if w.closed then .error .closed else .ok ({ w with buffer := [], closed := true }, w.request)

/-- The second half of a close: the answer of the queue as that of the close. -/
def endClose (answer : Except QueueError MessageId) : Except WriterError MessageId :=
  match answer with
  | .ok id => .ok id
  | .error e => .error (.send e)

/-- Closes a writer, and sends what it has collected. -/
def close {m : Type → Type} [Monad m] (queue : QueueService m) (w : Writer) :
    m (Writer × Except WriterError MessageId) :=
  match w.beginClose with
  | .error e => pure (w, .error e)
  | .ok (w, .error e) => pure (w, .error (.serialization e))
  | .ok (w, .ok request) => do return (w, endClose (← queue.send request))

end Writer

/-! ## Topics -/

/-- Where the messages of some writers go. -/
structure Topic where
  queueUrl : QueueUrl
  client : Client

namespace Topic

/-- A topic on a queue that is reached under the settings. -/
def connect (s : ConnectionSettings) (queueUrl : QueueUrl) : Except QueueError Topic :=
  match Client.connect s with
  | .ok client => .ok ⟨queueUrl, client⟩
  | .error e => .error e

/-- A writer for one message to the topic. -/
def writer (t : Topic) : Writer := .new t.queueUrl

instance : Shown Topic where
  shown t := Shown.record "Topic" [("queue_url", shown t.queueUrl)]

end Topic
end MessageQueue
