import MessageQueue.Attributes
import MessageQueue.Decimal.Whole
import MessageQueue.Identifier
import MessageQueue.Text.Utf8

/-!
# Messages and requests

A handler is given a `Message`: a body and its attributes.  What a queue hands out carries more, the
receipt and what the queue itself notes about the message.  The requests to send and to receive are
records of what is asked; a request to receive is kept within what a queue grants.
-/

namespace MessageQueue

/-! ## What a queue grants -/

/-- The most messages one request can ask for. -/
def maxBatch : UInt32 := 10

/-- The most seconds a request waits for messages. -/
def maxWaitSeconds : UInt32 := 20

/-- The most seconds by which a message can be delayed. -/
def maxDelaySeconds : Nat := 900

/-- The most octets of a body together with its attributes. -/
def maxMessageSize : Nat := 262144

/-! ## Messages -/

/-- What a handler is given. -/
structure Message where
  attributes : Attributes
  body : Bytes
deriving DecidableEq

/-- What a queue hands out. -/
structure ReceivedMessage where
  messageId : Option MessageId
  receiptHandle : ReceiptHandle
  body : Bytes
  /-- The attributes of the sender, one value a name. -/
  messageAttributes : Table String
  /-- What the queue notes about the message. -/
  systemAttributes : Table String
deriving DecidableEq

/-- A number of at most 32 bits, written in digits with an optional plus sign. -/
def count32? (text : String) : Option Nat := (Decimal.natural? text).filter (· < Nat.pow 2 32)

namespace ReceivedMessage

/-- How often the queue has handed the message out, if it says so. -/
def receiveCount? (m : ReceivedMessage) : Option Nat :=
  (m.systemAttributes.get? "ApproximateReceiveCount").bind count32?

/-- What a handler is given of it. -/
def toMessage (m : ReceivedMessage) : Message :=
  ⟨.ofPairs m.messageAttributes.entries, m.body⟩

end ReceivedMessage

/-! ## Requests -/

/-- A typed attribute as it is sent. -/
structure AttributeValue where
  dataType : String
  text : String
deriving DecidableEq, Repr

/-- An attribute of the type of texts. -/
def AttributeValue.ofText (text : String) : AttributeValue := ⟨"String", text⟩

/-- A request to send a message. -/
structure SendRequest where
  queueUrl : QueueUrl
  body : String
  delaySeconds : UInt32
  attributes : Table AttributeValue
deriving DecidableEq

/-- A request to receive messages. -/
structure ReceiveRequest where
  queueUrl : QueueUrl
  maxMessages : UInt32
  waitSeconds : UInt32
  /-- The names of the attributes to hand out. -/
  attributeNames : List String
deriving DecidableEq

/-- A request for messages with all their attributes, kept within what a queue grants. -/
def ReceiveRequest.allAttributes (queueUrl : QueueUrl) (maxMessages waitSeconds : UInt32) :
    ReceiveRequest :=
  { queueUrl
    maxMessages :=
      if maxMessages < 1 then 1 else if maxBatch < maxMessages then maxBatch else maxMessages
    waitSeconds := if maxWaitSeconds < waitSeconds then maxWaitSeconds else waitSeconds
    attributeNames := ["All"] }

/-- The attributes as they are sent: the values under each name with commas between them.  Names
without values are left out. -/
def Attributes.toSend (a : Attributes) : Table AttributeValue :=
  ⟨a.lists.entries.filterMap fun (name, values) =>
      if values = [] then none else some (name, .ofText (String.intercalate "," values)),
    List.pairwise_filterMap.mpr (a.lists.sorted.imp fun {x y} h => by
      intro b hb c hc
      split at hb <;> split at hc <;> simp_all
      rw [← hb.2, ← hc.2]
      exact h)⟩

end MessageQueue
